import Mathlib
import ResourceFaults.Proofs.Options.Items

/-!
# Values and names of the options

What the options of a fault make of their values (`FaultOption.read_eq_ok_iff`), and
which letter and which name belong to which option.
-/

namespace ResourceFaults

open Text (RawText RawChar)
open Arguments (Effect)
open FaultOption

/-! ## Values -/

section Values

variable {t : RawText} {v : List Char} {n : Nat} {k : FaultOption}

theorem Text.RawText.chars?_eq_some_iff : t.chars? = some v ↔ t = v.map .char := by
  constructor
  · intro h
    induction t generalizing v with
    | nil =>
      cases h
      rfl
    | cons u t ih =>
      cases u with
      | byte b => cases h
      | char c =>
        rw [RawText.chars?, Option.map_eq_some_iff] at h
        rcases h with ⟨w, hw, rfl⟩
        rw [ih hw]
        rfl
  · rintro rfl
    exact RawText.chars?_map_char v

theorem Arguments.readText_eq_ok_iff : readText (some t) = .ok v ↔ t = v.map .char := by
  rw [← RawText.chars?_eq_some_iff, readText, Option.getD_some]
  cases t.chars? <;> simp

theorem Arguments.readWord_eq_ok_iff {w : UInt64} :
    readWord (some t) = .ok w ↔
      ∃ v n, t = v.map .char ∧ (Decimal.IsNumeral v n ∧ n ≤ maxWord) ∧ UInt64.ofNat n = w := by
  rw [readWord, bind_eq_ok_iff]
  apply exists_congr
  intro v
  rw [readText_eq_ok_iff]
  have hread : ∀ n, Decimal.readWord v = .ok n ↔ Decimal.IsNumeral v n ∧ n ≤ maxWord :=
    fun n => Decimal.readNatural_eq_ok_iff
  cases hv : Decimal.readWord v with
  | error fault => simp [← hread, hv]
  | ok n => simp [← hread, hv]

theorem Arguments.maxHalfWord_le : maxHalfWord ≤ span 63 - 1 :=
  Nat.sub_le_sub_right (Nat.pow_le_pow_right (by omega) (by omega)) 1

theorem FaultOption.memory_reads_iff :
    memory.Reads v n ↔
      Decimal.readInteger (span 63 - 1) v = .ok (n : Int) ∧ n ≤ Arguments.maxHalfWord := by
  rw [Decimal.readInteger_eq_ok_natCast_iff, Reads]
  refine and_congr_left fun hn => or_congr_left ?_
  exact (and_iff_left (hn.trans Arguments.maxHalfWord_le)).symm

theorem Arguments.readHalfWord_eq_ok_iff {w : UInt32} :
    readHalfWord (some t) = .ok w ↔
      ∃ v n, t = v.map .char ∧ FaultOption.memory.Reads v n ∧ UInt32.ofNat n = w := by
  rw [readHalfWord, bind_eq_ok_iff]
  apply exists_congr
  intro v
  rw [readText_eq_ok_iff]
  simp only [memory_reads_iff]
  cases hv : Decimal.readInteger (span 63 - 1) v with
  | error fault => simp
  | ok i =>
    dsimp only
    rw [exists_and_left]
    apply and_congr_right
    intro _
    by_cases hi : 0 ≤ i ∧ i ≤ maxHalfWord
    · rw [if_pos hi]
      obtain ⟨n, rfl⟩ := Int.eq_ofNat_of_zero_le hi.1
      have hn : n ≤ maxHalfWord := Int.ofNat_le.1 hi.2
      constructor
      · intro h
        exact ⟨n, ⟨rfl, hn⟩, Except.ok.inj h⟩
      · intro h
        rcases h with ⟨m, ⟨hm, -⟩, hw⟩
        obtain rfl : n = m := Int.ofNat.inj (Except.ok.inj hm)
        exact congrArg _ hw
    · rw [if_neg hi]
      constructor
      · intro h
        cases h
      · intro h
        rcases h with ⟨m, ⟨hm, hle⟩, -⟩
        obtain rfl := Except.ok.inj hm
        exact absurd ⟨Int.natCast_nonneg m, Int.ofNat_le.2 hle⟩ hi

/-- What an option makes of a value. -/
theorem FaultOption.read_eq_ok_iff (hk : k ≠ keep) {e : Effect Options Empty} :
    k.read (some t) = .ok e ↔
      ∃ v n, t = v.map .char ∧ k.Reads v n ∧ e = .change (k.put n) := by
  cases k
  case keep => exact absurd rfl hk
  all_goals
    rw [FaultOption.read, Arguments.map_eq_ok_iff]
    simp only [Arguments.readWord_eq_ok_iff, Arguments.readHalfWord_eq_ok_iff]
    constructor
    · intro h
      rcases h with ⟨_, ⟨v, n, ht, hv, rfl⟩, rfl⟩
      exact ⟨v, n, ht, hv, rfl⟩
    · intro h
      rcases h with ⟨v, n, ht, hv, rfl⟩
      exact ⟨_, ⟨v, n, ht, hv, rfl⟩, rfl⟩

theorem FaultOption.Reads.ne_keep (h : k.Reads v n) : k ≠ keep := by
  rintro rfl
  exact h

/-- A value is some text, and more than a sign. -/
theorem FaultOption.Reads.ne (h : k.Reads v n) : v ≠ [] ∧ v ≠ ['-'] ∧ v.head? ≠ some '=' := by
  have hnumeral : Decimal.IsNumeral v n → v ≠ [] ∧ v ≠ ['-'] ∧ v.head? ≠ some '=' := by
    intro h
    rcases h with ⟨ds, rfl | rfl, hds, -⟩
    · refine ⟨hds.1, ?_, ?_⟩
      · rintro rfl
        exact absurd (hds.2 '-' List.mem_cons_self) (by decide)
      · intro hhead
        obtain ⟨ds', rfl⟩ := List.head?_eq_some_iff.1 hhead
        exact absurd (hds.2 '=' List.mem_cons_self) (by decide)
    · simp
  cases k with
  | keep => exact h.elim
  | memory =>
    rcases h.1 with h | ⟨-, ds, rfl, hds, -⟩
    · exact hnumeral h
    · simp [hds.1]
  | duration => exact hnumeral h.1
  | threads => exact hnumeral h.1
  | sleep => exact hnumeral h.1

end Values

/-! ## Names -/

section Names

variable {k : FaultOption} {c : Char} {name : RawText}

theorem FaultOption.ofShort?_eq_some_iff : grammar.ofShort? c = some k ↔ c = k.letter := by
  constructor
  · intro h
    have hshort : (grammar.spelling k).short = some c := by simpa using List.find?_some h
    cases k <;> exact (Option.some.inj hshort).symm
  · rintro rfl
    cases k <;> rfl

theorem FaultOption.ofLong?_eq_some_iff : grammar.ofLong? name = some k ↔ name = k.longName := by
  constructor
  · intro h
    have hlong := List.find?_some h
    exact eq_of_beq hlong
  · rintro rfl
    cases k <;> rfl

theorem FaultOption.takesValue_eq : grammar.takesValue k = decide (k ≠ keep) := by
  cases k <;> rfl

theorem FaultOption.letter_ne_hyphen : k.letter ≠ '-' := by
  cases k <;> decide

theorem FaultOption.equals_not_mem_longName : RawChar.char '=' ∉ k.longName := by
  cases k <;> decide

theorem FaultOption.longName_ne_nil : k.longName ≠ [] := by
  cases k <;> decide

end Names

end ResourceFaults
