import Mathlib
import ResourceFaults.Proofs.Decimal.Writing
import ResourceFaults.Proofs.Text.Words
import ResourceFaults.Time.Rfc3339

/-!
# Reading a moment that has been written

`Moment.read_chars`: a moment of the years `0` to `9999` that is in no leap second is
read back from its own text.

Every number in the text has a fixed width and is followed by a mark, so each reader
takes its number and leaves the mark (`readNumber_padded`).  Only the fraction varies
in length; it is written with the fewest groups of three digits that lose nothing
(`readFraction_fractionDigits`).
-/

namespace ResourceFaults.Time

open Decimal (digits digit? AreDigits continued continued_append areDigits_digits
  continued_digits length_digits_le digit?_of_isDigit digit?_of_not_isDigit le_continued)
open Text (isBlank trimStart isBlank_of_isDigit)

/-! ## Numbers of a fixed width -/

/-- Whether no digit stands at the front. -/
def NoDigit (cs : List Char) : Prop :=
  ∀ c ∈ cs.head?, c.isDigit = false

theorem noDigit_cons {c : Char} {cs : List Char} (h : c.isDigit = false) : NoDigit (c :: cs) := by
  rintro c' hc'
  obtain rfl : c = c' := by simpa using hc'
  exact h

theorem areDigits_padded (width n : Nat) : AreDigits (padded width n) := by
  obtain ⟨hne, hall⟩ := areDigits_digits n
  refine ⟨by simp [padded, hne], fun c hc => ?_⟩
  rcases List.mem_append.1 hc with hc | hc
  · obtain rfl := List.eq_of_mem_replicate hc
    rfl
  · exact hall c hc

theorem continued_padded (width n : Nat) : continued 0 (padded width n) = n := by
  have hzeros : ∀ k, continued 0 (List.replicate k '0') = 0 := by
    intro k
    induction k with
    | zero => rfl
    | succ k ih => exact ih
  rw [padded, continued_append, hzeros, continued_digits]

theorem length_padded {width n : Nat} (hwidth : 0 < width) (hn : n < 10 ^ width) :
    (padded width n).length = width := by
  have hle := length_digits_le hwidth hn
  simp only [padded, List.length_append, List.length_replicate]
  omega

/-- Digits are read up to the first character that is none. -/
theorem readUpTo_append {ds rest : List Char} (hall : ∀ c ∈ ds, c.isDigit = true)
    (hrest : NoDigit rest) (most value : Nat) (hmost : ds.length ≤ most)
    (hfits : continued value ds < 2 ^ 63) :
    readUpTo most value (ds ++ rest) = .ok (continued value ds, rest) := by
  induction ds generalizing most value with
  | nil =>
    cases most with
    | zero => rfl
    | succ most =>
      cases rest with
      | nil => rfl
      | cons c rest =>
        rw [List.nil_append, readUpTo, digit?_of_not_isDigit (hrest c rfl)]
        rfl
  | cons c ds ih =>
    cases most with
    | zero => simp at hmost
    | succ most =>
      have hlt : continued (value * 10 + (c.toNat - '0'.toNat)) ds < 2 ^ 63 := hfits
      have hle := le_continued (value * 10 + (c.toNat - '0'.toNat)) ds
      have hspan : span 63 = 2 ^ 63 := rfl
      rw [List.cons_append, readUpTo, digit?_of_isDigit (hall c List.mem_cons_self)]
      simp only
      rw [if_neg (by omega)]
      exact ih (fun c hc => hall c (List.mem_cons_of_mem _ hc)) _ _
        (Nat.le_of_succ_le_succ hmost) hlt

theorem readNumber_padded {most width n : Nat} {rest : List Char} (hwidth : 0 < width)
    (hmost : width ≤ most) (hshort : width ≤ 18) (hn : n < 10 ^ width) (hrest : NoDigit rest) :
    readNumber most (padded width n ++ rest) = .ok (n, rest) := by
  obtain ⟨hne, hall⟩ := areDigits_padded width n
  have hlength := length_padded hwidth hn
  have hvalue := continued_padded width n
  have hfits : n < 2 ^ 63 :=
    hn.trans_le ((Nat.pow_le_pow_right (by decide) hshort).trans (by decide))
  have hread := readUpTo_append hall hrest most 0 (by omega) (by omega)
  cases hpadded : padded width n with
  | nil => exact absurd hpadded hne
  | cons c cs =>
    rw [hpadded] at hall hread hvalue
    rw [List.cons_append, readNumber, digit?_of_isDigit (hall c List.mem_cons_self)]
    rw [hvalue] at hread
    exact hread

/-! ## Blanks and marks -/

theorem trimStart_cons {c : Char} {cs : List Char} (h : isBlank c = false) :
    trimStart (c :: cs) = c :: cs :=
  List.dropWhile_cons_of_neg (by simp [h])

/-- No blank is in front of a number. -/
theorem trimStart_padded (width n : Nat) (rest : List Char) :
    trimStart (padded width n ++ rest) = padded width n ++ rest := by
  obtain ⟨hne, hall⟩ := areDigits_padded width n
  cases hpadded : padded width n with
  | nil => exact absurd hpadded hne
  | cons c cs =>
    rw [hpadded] at hall
    exact trimStart_cons (isBlank_of_isDigit (hall c List.mem_cons_self))

theorem readMark_cons {mark : Char} {rest : List Char} (h : isBlank mark = false) :
    readMark mark (mark :: rest) = .ok ((), rest) := by
  simp [readMark, trimStart_cons h]

theorem readField_padded {low high n : Nat} {rest : List Char} (hlow : low ≤ n) (hhigh : n ≤ high)
    (hn : n < 100) (hrest : NoDigit rest) :
    readField low high (padded 2 n ++ rest) = .ok (n, rest) := by
  rw [readField, trimStart_padded,
    readNumber_padded (by decide) (Nat.le_refl 2) (by decide) (by simpa using hn) hrest]
  simp [bind, Except.bind, hlow, hhigh]

/-- A year of four digits. -/
theorem readYear_padded {year : Nat} {rest : List Char} (hyear : year < 10000)
    (hrest : NoDigit rest) : readYear (padded 4 year ++ rest) = .ok ((year : Int), rest) := by
  have hnumber : readNumber 4 (padded 4 year ++ rest) = .ok (year, rest) :=
    readNumber_padded (by decide) (Nat.le_refl 4) (by decide) (by simpa using hyear) hrest
  obtain ⟨hne, hall⟩ := areDigits_padded 4 year
  rw [readYear, trimStart_padded]
  cases hpadded : padded 4 year with
  | nil => exact absurd hpadded hne
  | cons c cs =>
    have hc := hall c (by rw [hpadded]; exact List.mem_cons_self)
    rw [hpadded] at hnumber
    have hminus : c ≠ '-' := by
      rintro rfl
      exact absurd hc (by decide)
    have hplus : c ≠ '+' := by
      rintro rfl
      exact absurd hc (by decide)
    have hrange : (-span 31 ≤ (year : Int) && (year : Int) < span 31) = true := by
      have hspan : span 31 = 2 ^ 31 := rfl
      rw [Bool.and_eq_true, decide_eq_true_eq, decide_eq_true_eq, hspan]
      omega
    rw [List.cons_append] at hnumber ⊢
    split
    · rename_i h
      exact absurd (List.cons.inj h).1 hminus
    · rename_i h
      exact absurd (List.cons.inj h).1 hplus
    · rw [hnumber]
      exact (ok_bind _ _).trans (if_pos hrange)

/-- A group of digits after the point counts as many nanoseconds as its width says. -/
theorem readFraction_point {width n : Nat} (hwidth : 0 < width) (hmost : width ≤ 9)
    (hn : n < 10 ^ width) :
    readFraction ('.' :: padded width n ++ ['Z']) = .ok (n * 10 ^ (9 - width), ['Z']) := by
  have hread : readNumber 9 (padded width n ++ ['Z']) = .ok (n, ['Z']) :=
    readNumber_padded hwidth hmost (by omega) hn (noDigit_cons rfl)
  have hlength : (padded width n ++ ['Z']).length - ['Z'].length = width := by
    rw [List.length_append, length_padded hwidth hn]
    rfl
  have hmark : ['Z'].dropWhile (fun c => (digit? c).isSome) = ['Z'] := by decide
  rw [List.cons_append, readFraction, hread]
  simp only [bind, Except.bind]
  rw [hlength, hmark]
  rfl

/-- The digits of a fraction stand for it, however many there are. -/
theorem readFraction_fractionDigits {nano : Nat} (hnano : nano < nanosPerSecond) :
    readFraction (fractionDigits nano ++ ['Z']) = .ok (nano, ['Z']) := by
  have hbound : nano < 1000000000 := hnano
  unfold fractionDigits
  by_cases hzero : nano = 0
  · subst hzero
    rfl
  rw [if_neg (by simpa using hzero)]
  by_cases hthree : nano % 1000000 = 0
  · rw [if_pos (by simpa using hthree), readFraction_point (by decide) (by decide) (by omega)]
    have hvalue : nano / 1000000 * 10 ^ (9 - 3) = nano := by omega
    rw [hvalue]
  rw [if_neg (by simpa using hthree)]
  by_cases hsix : nano % 1000 = 0
  · rw [if_pos (by simpa using hsix), readFraction_point (by decide) (by decide) (by omega)]
    have hvalue : nano / 1000 * 10 ^ (9 - 6) = nano := by omega
    rw [hvalue]
  · rw [if_neg (by simpa using hsix), readFraction_point (by decide) (by decide) (by omega)]
    have hvalue : nano * 10 ^ (9 - 9) = nano := by omega
    rw [hvalue]

/-! ## Moments -/

/-- A moment of the years `0` to `9999`, in no leap second. -/
structure Moment.IsPlain (m : Moment) : Prop where
  date_valid : m.date.isValid = true
  year_nonneg : 0 ≤ m.date.year
  year_le : m.date.year ≤ 9999
  second_lt : m.second < secondsPerDay
  nano_lt : m.nano < nanosPerSecond

instance (m : Moment) : Decidable m.IsPlain :=
  decidable_of_iff
    (m.date.isValid = true ∧ 0 ≤ m.date.year ∧ m.date.year ≤ 9999 ∧ m.second < secondsPerDay ∧
      m.nano < nanosPerSecond)
    ⟨fun ⟨hdate, hyear, hle, hsecond, hnano⟩ => ⟨hdate, hyear, hle, hsecond, hnano⟩,
      fun ⟨hdate, hyear, hle, hsecond, hnano⟩ => ⟨hdate, hyear, hle, hsecond, hnano⟩⟩

namespace Moment

variable {m : Moment}

/-- The text of a plain moment, mark by mark. -/
theorem chars_eq (h : m.IsPlain) :
    m.chars = padded 4 m.date.year.toNat ++ '-' :: (padded 2 m.date.month ++ '-' ::
      (padded 2 m.date.day ++ 'T' :: (padded 2 (m.second / 3600) ++ ':' ::
        (padded 2 (m.second / 60 % 60) ++ ':' ::
          (padded 2 (m.second % 60) ++ (fractionDigits m.nano ++ ['Z'])))))) := by
  have hleap : ¬ nanosPerSecond ≤ m.nano := Nat.not_le.2 h.nano_lt
  have hyear : yearDigits m.date.year = padded 4 m.date.year.toNat :=
    if_pos ⟨h.year_nonneg, h.year_le⟩
  simp [chars, hleap, hyear]

/-- A day that is one has a month and a day of two digits. -/
theorem parts_of_isValid {d : Date} (h : d.isValid = true) :
    1 ≤ d.month ∧ d.month ≤ 12 ∧ 1 ≤ d.day ∧ d.day ≤ 31 := by
  simp only [Date.isValid, Bool.and_eq_true, decide_eq_true_eq] at h
  rcases h with ⟨⟨-, hday⟩, hlength⟩
  unfold daysInMonth at hlength
  split at hlength
  · split at hlength <;> omega
  all_goals omega

/-- Local time without an offset is universal time. -/
theorem ofLocal?_zero (h : m.second < secondsPerDay) : m.ofLocal? 0 = some m := by
  have hsecond : m.second < 86400 := h
  have hday : secondsPerDay = 86400 := rfl
  have hmod : (((m.second : Int) - 0) % secondsPerDay).toNat = m.second := by
    rw [hday]
    omega
  rw [ofLocal?, hmod, if_neg (by omega), if_neg (by rw [hday]; omega)]
  rfl

theorem noDigit_fractionDigits (nano : Nat) : NoDigit (fractionDigits nano ++ ['Z']) := by
  unfold fractionDigits
  split
  · exact noDigit_cons rfl
  · split
    · exact noDigit_cons rfl
    · split <;> exact noDigit_cons rfl

/-- A plain moment is read back from its text: each reader takes its part and leaves
the mark that follows. -/
theorem read_chars (h : m.IsPlain) : Moment.read m.chars = .ok m := by
  obtain ⟨hmonth, hmonth', hday, hday'⟩ := parts_of_isValid h.date_valid
  have hlt : m.second < 86400 := h.second_lt
  have hcast : ((m.date.year.toNat : Nat) : Int) = m.date.year := Int.toNat_of_nonneg h.year_nonneg
  have hle := h.year_le
  have readsYear : ∀ rest, readYear (padded 4 m.date.year.toNat ++ '-' :: rest) =
      .ok (m.date.year, '-' :: rest) := fun rest => by
    rw [readYear_padded (by omega) (noDigit_cons rfl), hcast]
  have readsMonth : ∀ rest, readField 1 12 (padded 2 m.date.month ++ '-' :: rest) =
      .ok (m.date.month, '-' :: rest) := fun rest =>
    readField_padded hmonth hmonth' (by omega) (noDigit_cons rfl)
  have readsDay : ∀ rest, readField 1 31 (padded 2 m.date.day ++ 'T' :: rest) =
      .ok (m.date.day, 'T' :: rest) := fun rest =>
    readField_padded hday hday' (by omega) (noDigit_cons rfl)
  have readsHour : ∀ rest, readField 0 23 (padded 2 (m.second / 3600) ++ ':' :: rest) =
      .ok (m.second / 3600, ':' :: rest) := fun rest =>
    readField_padded (Nat.zero_le _) (by omega) (by omega) (noDigit_cons rfl)
  have readsMinute : ∀ rest, readField 0 59 (padded 2 (m.second / 60 % 60) ++ ':' :: rest) =
      .ok (m.second / 60 % 60, ':' :: rest) := fun rest =>
    readField_padded (Nat.zero_le _) (by omega) (by omega) (noDigit_cons rfl)
  have readsSecond :
      readField 0 60 (padded 2 (m.second % 60) ++ (fractionDigits m.nano ++ ['Z'])) =
        .ok (m.second % 60, fractionDigits m.nano ++ ['Z']) :=
    readField_padded (Nat.zero_le _) (by omega) (by omega) (noDigit_fractionDigits _)
  have readsHyphen : ∀ rest, readMark '-' ('-' :: rest) = .ok ((), rest) := fun _ =>
    readMark_cons rfl
  have readsColon : ∀ rest, readMark ':' (':' :: rest) = .ok ((), rest) := fun _ =>
    readMark_cons rfl
  have readsSeparator : ∀ rest, readSeparator ('T' :: rest) = .ok ((), rest) := fun _ => rfl
  have readsOffset : readOffset (trimStart ['Z']) = .ok (0, []) := rfl
  have hdate : Date.ofParts? m.date.year m.date.month m.date.day = some m.date :=
    if_pos h.date_valid
  have hclock : m.second / 3600 * 3600 + m.second / 60 % 60 * 60 + min (m.second % 60) 59 =
      m.second := by omega
  have hleap : (m.second % 60 == 60) = false := by
    rw [beq_eq_false_iff_ne]
    omega
  rw [chars_eq h, Moment.read]
  simp only [readsYear, readsHyphen, readsMonth, readsDay, readsSeparator, readsHour, readsColon,
    readsMinute, readsSecond, readFraction_fractionDigits h.nano_lt, readsOffset, ok_bind, hdate,
    hclock, hleap]
  have hlocal : Moment.ofLocal?
      ⟨m.date, m.second, if false = true then m.nano + nanosPerSecond else m.nano⟩ 0 = some m :=
    ofLocal?_zero h.second_lt
  rw [if_neg (by decide), if_neg (by decide), hlocal]

end Moment

end ResourceFaults.Time
