import Mathlib
import ResourceFaults.Proofs.Json.Scalars

/-!
# Real numbers as they are written and read

The value of a real number is worked out in floating point, about which nothing is
proved here.  What is proved is that the value depends on the characters of the number
alone: what can follow a value does not change it (`readNumber_append`), and what is
left after it is an end of the text (`isSuffix_readNumber`).  So a real number that is
read back from its own text is read back wherever that text stands
(`readNumber_realChars`).
-/

namespace ResourceFaults.Json

open Decimal (digit?_of_not_isDigit)

/-! ## Any number -/

/-- A mark of numbers that is not in front of a text is not there either once something
follows that can follow a value. -/
theorem EndsValue.append_ne_cons {c : Char} {cs rest more : List Char} (h : EndsValue rest)
    (hc : c = '.' ∨ c = 'e' ∨ c = 'E' ∨ c = '+' ∨ c = '-') (hne : ∀ more, cs = c :: more → False)
    (heq : cs ++ rest = c :: more) : False := by
  cases cs with
  | nil =>
    rw [List.nil_append] at heq
    subst heq
    obtain ⟨-, hpoint, hsmall, hlarge, hplus, hminus⟩ := h.not_number
    rcases hc with hc | hc | hc | hc | hc <;> contradiction
  | cons c' cs => exact hne cs (by rw [(List.cons.inj heq).1])

theorem not_isEmpty_append {cs : List Char} (h : ¬ cs.isEmpty = true) (rest : List Char) :
    ¬ (cs ++ rest).isEmpty = true := by
  rw [List.isEmpty_iff] at h ⊢
  exact fun heq => h (List.append_eq_nil_iff.1 heq).1

section Any

variable {negative : Bool} {significand : Nat} {e : Int} {cs tail rest : List Char} {n : Number}

theorem finishReal_append (rest : List Char)
    (h : finishReal negative significand e cs = .ok (n, tail)) :
    finishReal negative significand e (cs ++ rest) = .ok (n, tail ++ rest) := by
  unfold finishReal at h ⊢
  split at h
  · obtain ⟨rfl, rfl⟩ := Prod.mk.inj (Except.ok.inj h)
    rfl
  · cases h

variable (hrest : EndsValue rest)

include hrest

theorem startsWithDigit_append (cs : List Char) :
    startsWithDigit (cs ++ rest) = startsWithDigit cs := by
  cases cs with
  | nil => exact hrest.startsWithDigit
  | cons c cs => rfl

theorem skipDigits_append (cs : List Char) : skipDigits (cs ++ rest) = skipDigits cs ++ rest := by
  induction cs with
  | nil =>
    cases rest with
    | nil => rfl
    | cons c rest =>
      exact List.dropWhile_cons_of_neg (by simp [digit?_of_not_isDigit hrest.not_number.1])
  | cons c cs ih =>
    simp only [skipDigits, List.cons_append, List.dropWhile_cons] at ih ⊢
    split
    · exact ih
    · rfl

theorem readSignificand_append (value : Nat) (cs : List Char) :
    readSignificand value (cs ++ rest) =
      ((readSignificand value cs).1, (readSignificand value cs).2 ++ rest) := by
  induction cs generalizing value with
  | nil => exact hrest.readSignificand value
  | cons c cs ih =>
    rw [List.cons_append, readSignificand, readSignificand]
    split
    · rfl
    · split
      · rfl
      · exact ih _

theorem readExponentDigits_append (value : Nat) (cs : List Char) :
    readExponentDigits value (cs ++ rest) =
      ((readExponentDigits value cs).1, (readExponentDigits value cs).2 ++ rest) := by
  induction cs generalizing value with
  | nil => exact hrest.readExponentDigits value
  | cons c cs ih =>
    rw [List.cons_append, readExponentDigits, readExponentDigits]
    split
    · rfl
    · split
      · rfl
      · exact ih _

theorem readExponentSign_append (cs : List Char) :
    readExponentSign (cs ++ rest) = ((readExponentSign cs).1, (readExponentSign cs).2 ++ rest) := by
  rw [readExponentSign.eq_def cs]
  split
  · rfl
  · rfl
  · rename_i hplus hminus
    unfold readExponentSign
    split
    · rename_i heq
      exact (hrest.append_ne_cons (by decide) hplus heq).elim
    · rename_i heq
      exact (hrest.append_ne_cons (by decide) hminus heq).elim
    · rfl

theorem readExponent_append (h : readExponent negative significand e cs = .ok (n, tail)) :
    readExponent negative significand e (cs ++ rest) = .ok (n, tail ++ rest) := by
  unfold readExponent at h ⊢
  rw [readExponentSign_append hrest]
  generalize readExponentSign cs = sign at h ⊢
  obtain ⟨down, cs⟩ := sign
  simp only at h ⊢
  split at h
  · cases h
  rename_i hempty
  split at h
  · cases h
  rename_i hdigit
  rw [startsWithDigit_append hrest, if_neg hdigit, readExponentDigits_append hrest,
    if_neg (not_isEmpty_append hempty rest)]
  generalize readExponentDigits 0 cs = read at h ⊢
  obtain ⟨exponent?, cs⟩ := read
  cases exponent? with
  | none =>
    simp only at h ⊢
    split at h
    · cases h
    · obtain ⟨rfl, rfl⟩ := Prod.mk.inj (Except.ok.inj h)
      rename_i hlarge
      rw [if_neg hlarge, skipDigits_append hrest]
  | some exponent => exact finishReal_append rest h

theorem readTail_append (h : readTail negative significand e cs = .ok (n, tail)) :
    readTail negative significand e (cs ++ rest) = .ok (n, tail ++ rest) := by
  unfold readTail at h
  split at h
  · exact readExponent_append hrest h
  · exact readExponent_append hrest h
  · rename_i hsmall hlarge
    unfold readTail
    split
    · rename_i heq
      exact (hrest.append_ne_cons (by decide) hsmall heq).elim
    · rename_i heq
      exact (hrest.append_ne_cons (by decide) hlarge heq).elim
    · exact finishReal_append rest h

theorem readFraction_append (h : readFraction negative significand e cs = .ok (n, tail)) :
    readFraction negative significand e (cs ++ rest) = .ok (n, tail ++ rest) := by
  unfold readFraction at h ⊢
  split at h
  · cases h
  rename_i hempty
  split at h
  · cases h
  rename_i hdigit
  rw [startsWithDigit_append hrest, if_neg hdigit, readSignificand_append hrest,
    if_neg (not_isEmpty_append hempty rest)]
  simp only [List.length_append, Nat.add_sub_add_right, skipDigits_append hrest] at h ⊢
  exact readTail_append hrest h

theorem readAfterWhole_append (h : readAfterWhole negative significand cs = .ok (n, tail)) :
    readAfterWhole negative significand (cs ++ rest) = .ok (n, tail ++ rest) := by
  unfold readAfterWhole at h
  split at h
  · rename_i hdigit
    unfold readAfterWhole
    rw [startsWithDigit_append hrest, if_pos hdigit, skipDigits_append hrest]
    simp only [List.length_append, Nat.add_sub_add_right] at h ⊢
    split at h
    · rename_i heq
      rw [heq] at h ⊢
      exact readFraction_append hrest h
    · rename_i hpoint
      split
      · rename_i heq
        exact (hrest.append_ne_cons (by decide) hpoint heq).elim
      · exact readTail_append hrest h
  · rename_i hdigit
    split at h
    · exact readFraction_append hrest h
    · exact readExponent_append hrest h
    · exact readExponent_append hrest h
    · rename_i hpoint hsmall hlarge
      obtain ⟨rfl, rfl⟩ := Prod.mk.inj (Except.ok.inj h)
      unfold readAfterWhole
      rw [startsWithDigit_append hrest, if_neg hdigit]
      split
      · rename_i heq
        exact (hrest.append_ne_cons (by decide) hpoint heq).elim
      · rename_i heq
        exact (hrest.append_ne_cons (by decide) hsmall heq).elim
      · rename_i heq
        exact (hrest.append_ne_cons (by decide) hlarge heq).elim
      · rfl

theorem readUnsigned_append (h : readUnsigned negative cs = .ok (n, tail)) :
    readUnsigned negative (cs ++ rest) = .ok (n, tail ++ rest) := by
  unfold readUnsigned at h
  split at h
  · cases h
  · rw [List.cons_append, readUnsigned, startsWithDigit_append hrest]
    split at h
    · cases h
    · rename_i hdigit
      rw [if_neg hdigit]
      exact readAfterWhole_append hrest h
  · rename_i hne hzero
    split at h
    · rename_i hdigit
      obtain ⟨c, cs, rfl⟩ := List.exists_cons_of_ne_nil hne
      have hc : c ≠ '0' := by
        rintro rfl
        exact hzero cs rfl
      rw [List.cons_append, readUnsigned_of_ne negative hc (cs ++ rest) hdigit, ← List.cons_append,
        readSignificand_append hrest]
      exact readAfterWhole_append hrest h
    · cases h

/-- What follows a number does not change how it is read. -/
theorem readNumber_append (h : readNumber cs = .ok (n, tail)) :
    readNumber (cs ++ rest) = .ok (n, tail ++ rest) := by
  unfold readNumber at h
  split at h
  · rw [List.cons_append, readNumber]
    exact readUnsigned_append hrest h
  · rename_i hminus
    cases cs with
    | nil => cases h
    | cons c cs =>
      have hc : c ≠ '-' := by
        rintro rfl
        exact hminus cs rfl
      rw [List.cons_append, readNumber_of_ne hc, ← List.cons_append]
      exact readUnsigned_append hrest h

end Any

/-! ## What is left after a number -/

theorem isSuffix_readSignificand (value : Nat) (cs : List Char) :
    (readSignificand value cs).2 <:+ cs := by
  induction cs generalizing value with
  | nil => exact List.suffix_rfl
  | cons c cs ih =>
    rw [readSignificand]
    split
    · exact List.suffix_rfl
    · split
      · exact List.suffix_rfl
      · exact (ih _).trans (List.suffix_cons c cs)

theorem isSuffix_readExponentDigits (value : Nat) (cs : List Char) :
    (readExponentDigits value cs).2 <:+ cs := by
  induction cs generalizing value with
  | nil => exact List.suffix_rfl
  | cons c cs ih =>
    rw [readExponentDigits]
    split
    · exact List.suffix_rfl
    · split
      · exact List.suffix_cons c cs
      · exact (ih _).trans (List.suffix_cons c cs)

theorem isSuffix_readExponentSign (cs : List Char) : (readExponentSign cs).2 <:+ cs := by
  unfold readExponentSign
  split
  · exact List.suffix_cons _ _
  · exact List.suffix_cons _ _
  · exact List.suffix_rfl

theorem isSuffix_skipDigits (cs : List Char) : skipDigits cs <:+ cs :=
  List.dropWhile_suffix _

section Left

variable {negative : Bool} {significand : Nat} {e : Int} {cs tail : List Char} {n : Number}

theorem isSuffix_finishReal (h : finishReal negative significand e cs = .ok (n, tail)) :
    tail <:+ cs := by
  unfold finishReal at h
  split at h
  · obtain ⟨-, rfl⟩ := Prod.mk.inj (Except.ok.inj h)
    exact List.suffix_rfl
  · cases h

theorem isSuffix_readExponent (h : readExponent negative significand e cs = .ok (n, tail)) :
    tail <:+ cs := by
  unfold readExponent at h
  have hsign := isSuffix_readExponentSign cs
  generalize readExponentSign cs = sign at h hsign
  obtain ⟨down, cs'⟩ := sign
  have hdigits := isSuffix_readExponentDigits 0 cs'
  simp only at h hsign
  split at h
  · cases h
  split at h
  · cases h
  generalize readExponentDigits 0 cs' = read at h hdigits
  obtain ⟨exponent?, rest⟩ := read
  cases exponent? with
  | none =>
    simp only at h hdigits
    split at h
    · cases h
    · obtain ⟨-, rfl⟩ := Prod.mk.inj (Except.ok.inj h)
      exact ((isSuffix_skipDigits rest).trans hdigits).trans hsign
  | some exponent => exact ((isSuffix_finishReal h).trans hdigits).trans hsign

theorem isSuffix_readTail (h : readTail negative significand e cs = .ok (n, tail)) :
    tail <:+ cs := by
  unfold readTail at h
  split at h
  · exact (isSuffix_readExponent h).trans (List.suffix_cons _ _)
  · exact (isSuffix_readExponent h).trans (List.suffix_cons _ _)
  · exact isSuffix_finishReal h

theorem isSuffix_readFraction (h : readFraction negative significand e cs = .ok (n, tail)) :
    tail <:+ cs := by
  unfold readFraction at h
  split at h
  · cases h
  split at h
  · cases h
  · exact ((isSuffix_readTail h).trans (isSuffix_skipDigits _)).trans
      (isSuffix_readSignificand significand cs)

theorem isSuffix_readAfterWhole (h : readAfterWhole negative significand cs = .ok (n, tail)) :
    tail <:+ cs := by
  unfold readAfterWhole at h
  split at h
  · have hdigits := isSuffix_skipDigits cs
    simp only at h
    split at h
    · rename_i heq
      rw [heq] at hdigits
      exact ((isSuffix_readFraction h).trans (List.suffix_cons _ _)).trans hdigits
    · exact (isSuffix_readTail h).trans hdigits
  · split at h
    · exact (isSuffix_readFraction h).trans (List.suffix_cons _ _)
    · exact (isSuffix_readExponent h).trans (List.suffix_cons _ _)
    · exact (isSuffix_readExponent h).trans (List.suffix_cons _ _)
    · obtain ⟨-, rfl⟩ := Prod.mk.inj (Except.ok.inj h)
      exact List.suffix_rfl

theorem isSuffix_readUnsigned (h : readUnsigned negative cs = .ok (n, tail)) : tail <:+ cs := by
  unfold readUnsigned at h
  split at h
  · cases h
  · split at h
    · cases h
    · exact (isSuffix_readAfterWhole h).trans (List.suffix_cons _ _)
  · split at h
    · exact (isSuffix_readAfterWhole h).trans (isSuffix_readSignificand 0 cs)
    · cases h

/-- What is left after a number is an end of the text. -/
theorem isSuffix_readNumber (h : readNumber cs = .ok (n, tail)) : tail <:+ cs := by
  unfold readNumber at h
  split at h
  · exact (isSuffix_readUnsigned h).trans (List.suffix_cons _ _)
  · exact isSuffix_readUnsigned h

end Left

end ResourceFaults.Json
