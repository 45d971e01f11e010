import Mathlib
import ResourceFaults.Proofs.Decimal.Writing
import ResourceFaults.Proofs.Json.Spelling

/-!
# Reading scalars that have been written

* A string is read back from its escapes (`readString_escape`).
* A whole number that 64 bits can hold is read back from its digits
  (`readNumber_signedDigits`).
-/

namespace ResourceFaults.Json

open Decimal (digit? digits signedDigits continued digit?_of_isDigit digit?_of_not_isDigit
  continued_digits areDigits_digits head_digits digits_of_lt le_continued)

/-! ## Strings -/

theorem hexValue?_hexDigit {n : Nat} (h : n < 16) : hexValue? (Text.hexDigit n) = some n := by
  interval_cases n <;> rfl

/-- The escape of a control character by its code. -/
theorem readEscape_code {c : Char} (h : c.toNat < 0x20) (rest : List Char) :
    readEscape ('u' :: '0' :: '0' :: Text.hexDigit (c.toNat / 16) :: Text.hexDigit (c.toNat % 16) ::
      rest) = .ok (c, rest) := by
  have hzero : hexValue? '0' = some 0 := rfl
  have hhigh := hexValue?_hexDigit (n := c.toNat / 16) (by omega)
  have hlow := hexValue?_hexDigit (n := c.toNat % 16) (by omega)
  have hvalue : ((0 * 16 + 0) * 16 + c.toNat / 16) * 16 + c.toNat % 16 = c.toNat := by omega
  have hnotLow : isLowSurrogate c.toNat = false := by
    simp [isLowSurrogate]
    omega
  have hnotHigh : isHighSurrogate c.toNat = false := by
    simp [isHighSurrogate]
    omega
  have hfour : readFour ('0' :: '0' :: Text.hexDigit (c.toNat / 16) ::
      Text.hexDigit (c.toNat % 16) :: rest) = .ok (c.toNat, rest) := by
    simp only [readFour, hzero, hhigh, hlow, hvalue]
  have hpoint : readCodePoint ('0' :: '0' :: Text.hexDigit (c.toNat / 16) ::
      Text.hexDigit (c.toNat % 16) :: rest) = .ok (c, rest) := by
    rw [readCodePoint, hfour, ok_bind]
    simp [hnotLow, hnotHigh]
  exact hpoint

theorem readString_of_escape {c : Char} {cs rest : List Char} (h : readEscape cs = .ok (c, rest)) :
    readString ('\\' :: cs) = (readString rest).map fun (tail, rest) => (c :: tail, rest) := by
  rw [readString, if_neg (by decide), if_pos (by decide)]
  split
  · rename_i heq
    rw [h] at heq
    cases heq
  · rename_i heq
    rw [h] at heq
    obtain ⟨rfl, rfl⟩ := Prod.mk.inj (Except.ok.inj heq)
    rfl

theorem readString_of_plain {c : Char} (hquote : c ≠ '"') (hbackslash : c ≠ '\\')
    (hplain : ¬ c.toNat < 0x20) (rest : List Char) :
    readString (c :: rest) = (readString rest).map fun (tail, rest) => (c :: tail, rest) := by
  rw [readString, if_neg (by simpa using hquote), if_neg (by simpa using hbackslash),
    if_neg hplain]

/-- A character is read back from the way it stands in a string. -/
theorem readString_escapeChar (c : Char) (rest : List Char) :
    readString (escapeChar c ++ rest) =
      (readString rest).map fun (tail, rest) => (c :: tail, rest) := by
  unfold escapeChar
  split
  · exact readString_of_escape rfl
  · exact readString_of_escape rfl
  · exact readString_of_escape rfl
  · exact readString_of_escape rfl
  · exact readString_of_escape rfl
  · exact readString_of_escape rfl
  · exact readString_of_escape rfl
  · rename_i hquote hbackslash _ _ _ _ _
    split
    · rename_i hcontrol
      exact readString_of_escape (readEscape_code hcontrol rest)
    · rename_i hplain
      exact readString_of_plain hquote hbackslash hplain rest

/-- A string is read back up to its closing quote. -/
theorem readString_escape (cs rest : List Char) :
    readString (cs.flatMap escapeChar ++ '"' :: rest) = .ok (cs, rest) := by
  induction cs with
  | nil => rw [List.flatMap_nil, List.nil_append, readString, if_pos (by decide)]
  | cons c cs ih =>
    rw [List.flatMap_cons, List.append_assoc, readString_escapeChar, ih]
    rfl

/-- A string in front of what follows it. -/
theorem stringChars_append (s : String) (rest : List Char) :
    stringChars s ++ rest = '"' :: (s.toList.flatMap escapeChar ++ '"' :: rest) := by
  simp [stringChars]

/-! ## Whole numbers -/

theorem EndsValue.startsWithDigit {rest : List Char} (h : EndsValue rest) :
    startsWithDigit rest = false := by
  cases rest with
  | nil => rfl
  | cons c rest =>
    rw [Json.startsWithDigit, digit?_of_not_isDigit h.not_number.1]
    rfl

theorem startsWithDigit_cons {c : Char} (h : c.isDigit = true) (cs : List Char) :
    startsWithDigit (c :: cs) = true := by
  rw [startsWithDigit, digit?_of_isDigit h]
  rfl

theorem EndsValue.readSignificand {rest : List Char} (h : EndsValue rest) (value : Nat) :
    readSignificand value rest = (value, rest) := by
  cases rest with
  | nil => rfl
  | cons c rest =>
    rw [Json.readSignificand, digit?_of_not_isDigit h.not_number.1]

theorem EndsValue.readExponentDigits {rest : List Char} (h : EndsValue rest) (value : Nat) :
    readExponentDigits value rest = (some value, rest) := by
  cases rest with
  | nil => rfl
  | cons c rest =>
    rw [Json.readExponentDigits, digit?_of_not_isDigit h.not_number.1]

/-- Digits that fit into a word are read to their end. -/
theorem readSignificand_digits {ds rest : List Char} (hall : ∀ c ∈ ds, c.isDigit = true)
    (hrest : EndsValue rest) {value : Nat} (hfits : continued value ds ≤ maxWord) :
    readSignificand value (ds ++ rest) = (continued value ds, rest) := by
  induction ds generalizing value with
  | nil => exact hrest.readSignificand value
  | cons c ds ih =>
    have hle := le_continued (value * 10 + (c.toNat - '0'.toNat)) ds
    have hfits' : continued (value * 10 + (c.toNat - '0'.toNat)) ds ≤ maxWord := hfits
    rw [List.cons_append, readSignificand, digit?_of_isDigit (hall c List.mem_cons_self)]
    simp only
    rw [if_neg (Nat.not_lt.2 (hle.trans hfits'))]
    exact ih (fun c hc => hall c (List.mem_cons_of_mem _ hc)) hfits'

/-- A whole part with nothing behind it is a whole number. -/
theorem readAfterWhole_end (negative : Bool) (n : Nat) {rest : List Char} (hrest : EndsValue rest) :
    readAfterWhole negative n rest = .ok (wholeNumber negative n, rest) := by
  unfold readAfterWhole
  rw [hrest.startsWithDigit, if_neg Bool.false_ne_true]
  cases rest with
  | nil => rfl
  | cons c rest =>
    obtain ⟨-, hpoint, hsmall, hlarge, -, -⟩ := hrest.not_number
    split
    · rename_i h
      exact absurd (List.cons.inj h).1 hpoint
    · rename_i h
      exact absurd (List.cons.inj h).1 hsmall
    · rename_i h
      exact absurd (List.cons.inj h).1 hlarge
    · rfl

/-- A number that starts with no zero takes all the digits it can. -/
theorem readUnsigned_of_ne (negative : Bool) {c : Char} (hzero : c ≠ '0') (cs : List Char)
    (hdigit : startsWithDigit (c :: cs) = true) :
    readUnsigned negative (c :: cs) = readAfterWhole negative (readSignificand 0 (c :: cs)).1
      (readSignificand 0 (c :: cs)).2 := by
  unfold readUnsigned
  split
  · rename_i heq
    cases heq
  · rename_i heq
    exact absurd (List.cons.inj heq).1 hzero
  · rw [if_pos hdigit]

theorem readUnsigned_digits (negative : Bool) {n : Nat} (hfits : n ≤ maxWord) {rest : List Char}
    (hrest : EndsValue rest) :
    readUnsigned negative (digits n ++ rest) = .ok (wholeNumber negative n, rest) := by
  obtain ⟨-, hall⟩ := areDigits_digits n
  have hvalue := continued_digits n
  obtain ⟨c, ds, hdigits, hc, hzero⟩ := head_digits n
  by_cases hn : n = 0
  · subst hn
    have hzeros : digits 0 = ['0'] := digits_of_lt (by decide)
    rw [hzeros, List.cons_append, List.nil_append, readUnsigned, hrest.startsWithDigit,
      if_neg Bool.false_ne_true, readAfterWhole_end negative 0 hrest]
  · have hread : readSignificand 0 (digits n ++ rest) = (n, rest) := by
      rw [readSignificand_digits hall hrest (by omega), hvalue]
    rw [hdigits, List.cons_append] at hread ⊢
    rw [readUnsigned_of_ne negative (fun h => hn (hzero h)) _ (startsWithDigit_cons hc _), hread]
    exact readAfterWhole_end negative n hrest

theorem readNumber_of_ne {c : Char} (h : c ≠ '-') (cs : List Char) :
    readNumber (c :: cs) = readUnsigned false (c :: cs) := by
  unfold readNumber
  split
  · rename_i heq
    exact absurd (List.cons.inj heq).1 h
  · rfl

/-- A whole number that 64 bits can hold is read back from its digits. -/
theorem readNumber_signedDigits {i : Int} (hlow : -2 ^ 63 ≤ i) (hhigh : i < 2 ^ 64)
    {rest : List Char} (hrest : EndsValue rest) :
    readNumber (signedDigits i ++ rest) = .ok (.integer i, rest) := by
  have hword : maxWord = 2 ^ 64 - 1 := rfl
  have hspan : span 63 = 2 ^ 63 := rfl
  have hfits : i.natAbs ≤ maxWord := by omega
  unfold signedDigits
  by_cases hneg : i < 0
  · have hwhole : wholeNumber true i.natAbs = .integer i := by
      have hbig : (i.natAbs == 0 || span 63 < i.natAbs) = false := by
        rw [Bool.or_eq_false_iff, beq_eq_false_iff_ne, decide_eq_false_iff_not]
        omega
      have habs : -(i.natAbs : Int) = i := by omega
      rw [wholeNumber, if_pos rfl, hbig, if_neg Bool.false_ne_true, habs]
    rw [if_pos hneg, List.cons_append, readNumber, readUnsigned_digits true hfits hrest, hwhole]
  · have hwhole : wholeNumber false i.natAbs = .integer i := by
      have habs : (i.natAbs : Int) = i := by omega
      rw [wholeNumber, if_neg Bool.false_ne_true, habs]
    have hread := readUnsigned_digits false hfits hrest
    obtain ⟨c, ds, hdigits, hc, -⟩ := head_digits i.natAbs
    have hminus : c ≠ '-' := by
      rintro rfl
      exact absurd hc (by decide)
    rw [hwhole] at hread
    rw [if_neg hneg]
    rw [hdigits, List.cons_append] at hread ⊢
    rw [readNumber_of_ne hminus, hread]

end ResourceFaults.Json
