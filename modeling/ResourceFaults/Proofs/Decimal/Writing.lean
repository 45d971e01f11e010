import Mathlib
import ResourceFaults.Decimal.Shortest
import ResourceFaults.Proofs.Decimal.Reading

/-!
# Whole numbers as they are written

`digits n` are the digits of `n` (`areDigits_digits`), they stand for `n`
(`continued_digits`), and there are as many of them as `n` needs
(`length_digits_le`).  No zero is in front, unless it is all there is
(`head_digits`).  A real number is written with digits, points, letters and signs
(`Layout.spec_of_float?`).
-/

namespace ResourceFaults

/-- A reader that has succeeded hands over to the next one. -/
theorem ok_bind {ε α β : Type} (a : α) (f : α → Except ε β) : (Except.ok a >>= f) = f a := rfl

namespace Decimal

/-! ## Single digits -/

theorem isDigit_digitChar (d : Nat) : (digitChar d).isDigit = true := by
  have hd : d % 10 < 10 := Nat.mod_lt d (by decide)
  unfold digitChar
  interval_cases d % 10 <;> rfl

theorem toNat_digitChar (d : Nat) : (digitChar d).toNat = d % 10 + '0'.toNat := by
  have hd : d % 10 < 10 := Nat.mod_lt d (by decide)
  unfold digitChar
  interval_cases d % 10 <;> rfl

theorem digit?_of_isDigit {c : Char} (h : c.isDigit = true) :
    digit? c = some (c.toNat - '0'.toNat) := by
  rw [digit?_eq, if_pos h]

theorem digit?_of_not_isDigit {c : Char} (h : c.isDigit = false) : digit? c = none := by
  rw [digit?_eq, h, if_neg Bool.false_ne_true]

/-! ## Numbers -/

theorem continued_append (n : Nat) (ds es : List Char) :
    continued n (ds ++ es) = continued (continued n ds) es :=
  List.foldl_append

theorem digits_of_lt {n : Nat} (h : n < 10) : digits n = [digitChar n] := by
  rw [digits, if_pos h]

theorem digits_of_le {n : Nat} (h : 10 ≤ n) :
    digits n = digits (n / 10) ++ [digitChar (n % 10)] := by
  rw [digits, if_neg (Nat.not_lt.2 h)]

theorem areDigits_digits (n : Nat) : AreDigits (digits n) := by
  induction n using Nat.strong_induction_on with
  | _ n ih =>
    by_cases h : n < 10
    · rw [digits_of_lt h]
      exact ⟨List.cons_ne_nil _ _, List.forall_mem_singleton.2 (isDigit_digitChar n)⟩
    · rw [digits_of_le (by omega)]
      obtain ⟨-, hall⟩ := ih (n / 10) (by omega)
      refine ⟨by simp, fun c hc => ?_⟩
      rcases List.mem_append.1 hc with hc | hc
      · exact hall c hc
      · obtain rfl := List.mem_singleton.1 hc
        exact isDigit_digitChar _

/-- The digits of a number stand for it. -/
theorem continued_digits (n : Nat) : continued 0 (digits n) = n := by
  induction n using Nat.strong_induction_on with
  | _ n ih =>
    by_cases h : n < 10
    · rw [digits_of_lt h]
      show 0 * 10 + ((digitChar n).toNat - '0'.toNat) = n
      rw [toNat_digitChar]
      omega
    · rw [digits_of_le (by omega), continued_append, ih (n / 10) (by omega)]
      show n / 10 * 10 + ((digitChar (n % 10)).toNat - '0'.toNat) = n
      rw [toNat_digitChar]
      omega

theorem length_digits_le {n width : Nat} (hwidth : 0 < width) (h : n < 10 ^ width) :
    (digits n).length ≤ width := by
  induction width generalizing n with
  | zero => omega
  | succ width ih =>
    by_cases hn : n < 10
    · rw [digits_of_lt hn]
      exact hwidth
    · have hpos : 0 < width := by
        by_contra hzero
        obtain rfl : width = 0 := by omega
        omega
      have hdiv : n / 10 < 10 ^ width := by
        rw [Nat.div_lt_iff_lt_mul (by decide)]
        rwa [pow_succ] at h
      rw [digits_of_le (by omega), List.length_append]
      exact Nat.succ_le_succ (ih hpos hdiv)

/-- The first digit, which is a zero only in zero itself. -/
theorem head_digits (n : Nat) :
    ∃ c ds, digits n = c :: ds ∧ c.isDigit = true ∧ (c = '0' → n = 0) := by
  induction n using Nat.strong_induction_on with
  | _ n ih =>
    by_cases h : n < 10
    · refine ⟨digitChar n, [], digits_of_lt h, isDigit_digitChar n, fun hzero => ?_⟩
      have hnat := toNat_digitChar n
      rw [hzero] at hnat
      omega
    · obtain ⟨c, ds, hdigits, hc, hzero⟩ := ih (n / 10) (by omega)
      refine ⟨c, ds ++ [digitChar (n % 10)], ?_, hc, fun h => ?_⟩
      · rw [digits_of_le (by omega), hdigits, List.cons_append]
      · have := hzero h
        omega

/-! ## Any number -/

/-- Whether a character stands in numbers. -/
def IsNumberChar (c : Char) : Prop :=
  c.isDigit = true ∨ c = '.' ∨ c = 'e' ∨ c = '+' ∨ c = '-'

/-- Whether a text starts as numbers do: with a digit or a minus sign. -/
def StartsNumber (cs : List Char) : Prop :=
  ∃ c rest, cs = c :: rest ∧ (c = '-' ∨ c.isDigit = true)

theorem startsNumber_signedDigits (i : Int) : StartsNumber (signedDigits i) := by
  unfold signedDigits
  split
  · exact ⟨'-', _, rfl, .inl rfl⟩
  · obtain ⟨c, ds, hdigits, hc, -⟩ := head_digits i.natAbs
    exact ⟨c, ds, hdigits, .inr hc⟩

theorem Layout.isNumberChar_write (layout : Layout) {ds : List Char}
    (hall : ∀ c ∈ ds, c.isDigit = true) (u : Int) : ∀ c ∈ layout.write ds u, IsNumberChar c := by
  have hdigits : ∀ c ∈ ds, IsNumberChar c := fun c hc => .inl (hall c hc)
  have htake : ∀ k, ∀ c ∈ ds.take k, IsNumberChar c := fun k c hc =>
    hdigits c (List.mem_of_mem_take hc)
  have hdrop : ∀ k, ∀ c ∈ ds.drop k, IsNumberChar c := fun k c hc =>
    hdigits c (List.mem_of_mem_drop hc)
  have hzeros : ∀ k, ∀ c ∈ List.replicate k '0', IsNumberChar c := fun k c hc =>
    .inl (by rw [List.eq_of_mem_replicate hc]; rfl)
  have hexponent : ∀ n, ∀ c ∈ digits n, IsNumberChar c := fun n c hc =>
    .inl ((areDigits_digits n).2 c hc)
  have hzero : IsNumberChar '0' := .inl rfl
  have hpoint : IsNumberChar '.' := .inr (.inl rfl)
  have hletter : IsNumberChar 'e' := .inr (.inr (.inl rfl))
  have hplus : IsNumberChar '+' := .inr (.inr (.inr (.inl rfl)))
  have hminus : IsNumberChar '-' := .inr (.inr (.inr (.inr rfl)))
  have hnone : ∀ c ∈ ([] : List Char), IsNumberChar c := fun _ hc => absurd hc List.not_mem_nil
  unfold Layout.write
  simp only
  split
  · split
    · exact List.forall_mem_append.2 ⟨List.forall_mem_append.2 ⟨hdigits, hzeros _⟩,
        List.forall_mem_cons.2 ⟨hpoint, List.forall_mem_singleton.2 hzero⟩⟩
    · split
      · exact List.forall_mem_append.2 ⟨htake _, List.forall_mem_cons.2 ⟨hpoint, hdrop _⟩⟩
      · exact List.forall_mem_append.2 ⟨List.forall_mem_append.2
          ⟨List.forall_mem_cons.2 ⟨hzero, List.forall_mem_singleton.2 hpoint⟩, hzeros _⟩, hdigits⟩
  · refine List.forall_mem_append.2 ⟨List.forall_mem_append.2 ⟨htake 1, ?_⟩,
      List.forall_mem_cons.2 ⟨hletter, ?_⟩⟩
    · split
      · exact hnone
      · exact List.forall_mem_cons.2 ⟨hpoint, hdrop 1⟩
    · split
      · exact List.forall_mem_cons.2 ⟨hminus, hexponent _⟩
      · exact List.forall_mem_cons.2 ⟨hplus, hexponent _⟩

/-- A number starts with a digit. -/
theorem Layout.head_write (layout : Layout) {ds : List Char} (h : AreDigits ds) (u : Int) :
    ∃ c cs, layout.write ds u = c :: cs ∧ c.isDigit = true := by
  obtain ⟨hne, hall⟩ := h
  obtain ⟨d, ds, rfl⟩ := List.exists_cons_of_ne_nil hne
  have hd := hall d List.mem_cons_self
  unfold Layout.write
  simp only
  split
  · split
    · exact ⟨d, _, rfl, hd⟩
    · split
      · exact ⟨d, _, rfl, hd⟩
      · exact ⟨'0', _, rfl, rfl⟩
  · exact ⟨d, _, rfl, hd⟩

theorem Layout.spec_of_float? {layout : Layout} {x : Float} {cs : List Char}
    (h : layout.float? x = some cs) : (∀ c ∈ cs, IsNumberChar c) ∧ StartsNumber cs := by
  unfold Layout.float? at h
  split at h
  · rename_i negative m q _
    have hbody : ∀ body, body = (if m == 0 then ['0', '.', '0']
          else layout.write (digits (shortest m q).1) (shortest m q).2) →
        (∀ c ∈ body, IsNumberChar c) ∧ ∃ c rest, body = c :: rest ∧ c.isDigit = true := by
      rintro _ rfl
      split
      · refine ⟨?_, '0', ['.', '0'], rfl, rfl⟩
        simp [IsNumberChar]
      · have hdigits := areDigits_digits (shortest m q).1
        exact ⟨layout.isNumberChar_write hdigits.2 _, layout.head_write hdigits _⟩
    obtain ⟨hchars, c, rest, hhead, hc⟩ := hbody _ rfl
    obtain rfl := Option.some.inj h
    cases negative with
    | true =>
      refine ⟨List.forall_mem_cons.2 ⟨?_, hchars⟩, '-', _, rfl, .inl rfl⟩
      exact .inr (.inr (.inr (.inr rfl)))
    | false => exact ⟨hchars, c, rest, hhead, .inr hc⟩
  · cases h

end Decimal

end ResourceFaults
