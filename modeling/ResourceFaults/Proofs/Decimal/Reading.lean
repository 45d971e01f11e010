import Mathlib
import ResourceFaults.Decimal.Whole

/-!
# Which texts are whole numbers

`IsNumeral cs n` says that some characters are a numeral for `n`: an optional plus
sign and at least one digit.  Leading zeros are allowed.  `readNatural` takes the
numerals up to its limit and nothing else, and `readInteger` takes those after a
minus sign as well.
-/

namespace ResourceFaults.Decimal

/-! ## Digits -/

/-- The number that some digits stand for, after the digits of `n`. -/
def continued (n : Nat) (ds : List Char) : Nat :=
  ds.foldl (fun n c => n * 10 + (c.toNat - '0'.toNat)) n

/-- Whether some characters are digits, one at least. -/
def AreDigits (ds : List Char) : Prop :=
  ds ≠ [] ∧ ∀ c ∈ ds, c.isDigit = true

/-- Whether some characters are a numeral for a number. -/
def IsNumeral (cs : List Char) (n : Nat) : Prop :=
  ∃ ds, (cs = ds ∨ cs = '+' :: ds) ∧ AreDigits ds ∧ continued 0 ds = n

theorem digit?_eq (c : Char) :
    digit? c = if c.isDigit then some (c.toNat - '0'.toNat) else none := by
  have hiff : (48 ≤ c.toNat ∧ c.toNat ≤ 57) ↔ c.isDigit = true := by
    rw [Char.isDigit, Bool.and_eq_true, decide_eq_true_eq, decide_eq_true_eq]
    exact Iff.rfl
  unfold digit?
  by_cases h : c.isDigit = true
  · rw [if_pos (hiff.2 h), if_pos h]
    rfl
  · rw [if_neg fun hle => h (hiff.1 hle), if_neg h]

/-- Digits that follow do not make a number smaller. -/
theorem le_continued (n : Nat) (ds : List Char) : n ≤ continued n ds := by
  induction ds generalizing n with
  | nil => exact Nat.le_refl n
  | cons c ds ih =>
    have hle := ih (n * 10 + (c.toNat - '0'.toNat))
    have hstep : n ≤ n * 10 + (c.toNat - '0'.toNat) := by omega
    exact hstep.trans hle

section Reading

variable {limit n m : Nat} {beyond : NumberFault} {cs : List Char}

theorem readDigits_eq_ok_iff (hn : n ≤ limit) :
    readDigits limit beyond n cs = .ok m ↔
      (∀ c ∈ cs, c.isDigit = true) ∧ continued n cs = m ∧ m ≤ limit := by
  induction cs generalizing n with
  | nil =>
    simp only [readDigits, continued, List.foldl_nil, Except.ok.injEq, List.not_mem_nil,
      false_implies, implies_true, true_and]
    constructor
    · rintro rfl
      exact ⟨rfl, hn⟩
    · exact fun h => h.1
  | cons c cs ih =>
    rw [readDigits, digit?_eq]
    by_cases hc : c.isDigit = true
    · rw [if_pos hc]
      show (if limit < n * 10 + (c.toNat - '0'.toNat) then _ else _) = _ ↔ _
      have hcontinued : continued n (c :: cs) =
          continued (n * 10 + (c.toNat - '0'.toNat)) cs := rfl
      by_cases hlt : limit < n * 10 + (c.toNat - '0'.toNat)
      · rw [if_pos hlt]
        have hle := le_continued (n * 10 + (c.toNat - '0'.toNat)) cs
        constructor
        · intro h
          cases h
        · intro h
          rcases h with ⟨-, rfl, hm⟩
          rw [hcontinued] at hm
          omega
      · rw [if_neg hlt, ih (by omega), hcontinued, List.forall_mem_cons]
        simp [hc]
    · rw [if_neg hc]
      constructor
      · intro h
        cases h
      · intro h
        rcases h with ⟨hall, -⟩
        exact absurd (hall c List.mem_cons_self) hc

theorem readMagnitude_eq_ok_iff :
    readMagnitude limit beyond cs = .ok m ↔ AreDigits cs ∧ continued 0 cs = m ∧ m ≤ limit := by
  unfold readMagnitude AreDigits
  cases cs with
  | nil => simp
  | cons c cs => simp [readDigits_eq_ok_iff]

/-- A digit is no sign. -/
theorem ne_sign_of_areDigits {c : Char} {ds : List Char} (h : AreDigits (c :: ds)) :
    c ≠ '+' ∧ c ≠ '-' := by
  have hc := h.2 c List.mem_cons_self
  constructor
  · rintro rfl
    exact absurd hc (by decide)
  · rintro rfl
    exact absurd hc (by decide)

theorem readNatural_eq_ok_iff :
    readNatural limit cs = .ok m ↔ IsNumeral cs m ∧ m ≤ limit := by
  have hplain : ∀ ds, AreDigits ds → readNatural limit ds = readMagnitude limit .tooLarge ds := by
    intro ds hds
    cases ds with
    | nil => exact absurd rfl hds.1
    | cons c ds =>
      have hne := (ne_sign_of_areDigits hds).1
      simp [readNatural, hne]
  constructor
  · intro h
    unfold readNatural at h
    split at h
    · cases h
    · obtain ⟨hds, hm, hle⟩ := readMagnitude_eq_ok_iff.1 h
      exact ⟨⟨_, .inr rfl, hds, hm⟩, hle⟩
    · obtain ⟨hds, hm, hle⟩ := readMagnitude_eq_ok_iff.1 h
      exact ⟨⟨_, .inl rfl, hds, hm⟩, hle⟩
  · intro h
    rcases h with ⟨⟨ds, rfl | rfl, hds, hm⟩, hle⟩
    · rw [hplain cs hds]
      exact readMagnitude_eq_ok_iff.2 ⟨hds, hm, hle⟩
    · exact readMagnitude_eq_ok_iff.2 ⟨hds, hm, hle⟩

/-- Of the numbers from zero on, a reader of integers takes the numerals, and zeros
after a minus sign. -/
theorem readInteger_eq_ok_natCast_iff :
    readInteger limit cs = .ok (m : Int) ↔
      (IsNumeral cs m ∧ m ≤ limit) ∨
        (m = 0 ∧ ∃ ds, cs = '-' :: ds ∧ AreDigits ds ∧ continued 0 ds = 0) := by
  have hcast : ∀ ds, ((readMagnitude limit .tooLarge ds).map fun n => (n : Int)) = .ok (m : Int) ↔
      AreDigits ds ∧ continued 0 ds = m ∧ m ≤ limit := by
    intro ds
    rw [← @readMagnitude_eq_ok_iff limit m .tooLarge ds]
    cases readMagnitude limit .tooLarge ds <;> simp [Except.map]
  have hneg : ∀ ds, ((readMagnitude (limit + 1) .tooSmall ds).map fun n => -(n : Int)) =
      .ok (m : Int) ↔ m = 0 ∧ AreDigits ds ∧ continued 0 ds = 0 := by
    intro ds
    have hzero : AreDigits ds ∧ continued 0 ds = 0 ↔
        readMagnitude (limit + 1) .tooSmall ds = .ok 0 := by
      rw [readMagnitude_eq_ok_iff]
      simp
    rw [hzero]
    cases readMagnitude (limit + 1) .tooSmall ds with
    | error fault => simp [Except.map]
    | ok n =>
      have hiff : -(n : Int) = m ↔ m = 0 ∧ n = 0 := by omega
      simpa [Except.map] using hiff
  have hplain : ∀ ds, AreDigits ds →
      readInteger limit ds = (readMagnitude limit .tooLarge ds).map fun n => (n : Int) := by
    intro ds hds
    cases ds with
    | nil => exact absurd rfl hds.1
    | cons c ds =>
      have hne := ne_sign_of_areDigits hds
      simp [readInteger, hne.1, hne.2]
  constructor
  · intro h
    unfold readInteger at h
    split at h
    · cases h
    · obtain ⟨hm, hds, hzero⟩ := (hneg _).1 h
      exact .inr ⟨hm, _, rfl, hds, hzero⟩
    · obtain ⟨hds, hm, hle⟩ := (hcast _).1 h
      exact .inl ⟨⟨_, .inr rfl, hds, hm⟩, hle⟩
    · obtain ⟨hds, hm, hle⟩ := (hcast _).1 h
      exact .inl ⟨⟨_, .inl rfl, hds, hm⟩, hle⟩
  · intro h
    rcases h with ⟨⟨ds, rfl | rfl, hds, hm⟩, hle⟩ | ⟨hm, ds, rfl, hds, hzero⟩
    · rw [hplain cs hds]
      exact (hcast cs).2 ⟨hds, hm, hle⟩
    · exact (hcast ds).2 ⟨hds, hm, hle⟩
    · exact (hneg ds).2 ⟨hm, hds, hzero⟩

end Reading

end ResourceFaults.Decimal
