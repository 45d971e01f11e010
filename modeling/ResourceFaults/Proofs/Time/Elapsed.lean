import Mathlib
import ResourceFaults.Proofs.Time.Rfc3339

/-!
# The time between two moments

`Moment.secondsSince` borrows from the seconds what the nanoseconds lack and corrects the
sign at the end.  `Moment.secondsSince_eq_tdiv` says what comes out: the nanoseconds between
the two moments as one number, divided by those of a second and cut toward zero.

All moments of the calendar lie close enough together for 64 bits
(`Moment.toInt_secondsSince`).
-/

namespace ResourceFaults.Time

/-! ## Numbers of days -/

theorem daysInMonth_le (year : Int) (month : Nat) : daysInMonth year month ≤ 31 := by
  unfold daysInMonth
  split
  · split <;> decide
  all_goals decide

theorem daysBeforeMonth_le (year : Int) (month : Nat) :
    daysBeforeMonth year month ≤ 31 * month := by
  induction month with
  | zero => exact Nat.le_refl 0
  | succ month ih =>
    have hmonth := daysInMonth_le year month
    rw [daysBeforeMonth]
    omega

/-- The days of the calendar have numbers of nine digits. -/
theorem Date.dayNumber_bounds {d : Date} (h : d.isValid = true) :
    -200000000 < d.dayNumber ∧ d.dayNumber < 200000000 := by
  obtain ⟨-, hmonth, -, hday⟩ := Moment.parts_of_isValid h
  have hbefore := daysBeforeMonth_le d.year d.month
  have hyear : -262143 ≤ d.year ∧ d.year ≤ 262142 := by
    simp only [isValid, Bool.and_eq_true, decide_eq_true_eq] at h
    exact h.1.1
  simp only [dayNumber, daysBeforeYear]
  omega

/-! ## Moments as numbers -/

namespace Moment

/-- Whether a moment is one of the calendar.  It may lie in a leap second. -/
structure IsInCalendar (m : Moment) : Prop where
  date_valid : m.date.isValid = true
  second_lt : m.second < secondsPerDay
  nano_lt : m.nano < 2 * nanosPerSecond

instance (m : Moment) : Decidable m.IsInCalendar :=
  decidable_of_iff
    (m.date.isValid = true ∧ m.second < secondsPerDay ∧ m.nano < 2 * nanosPerSecond)
    ⟨fun ⟨hdate, hsecond, hnano⟩ => ⟨hdate, hsecond, hnano⟩,
      fun ⟨hdate, hsecond, hnano⟩ => ⟨hdate, hsecond, hnano⟩⟩

/-- A moment in nanoseconds on a scale that has no leap seconds.  A moment in a leap second
falls together with one in the second after it. -/
def instant (m : Moment) : Int :=
  (m.date.dayNumber * secondsPerDay + m.second) * nanosPerSecond + m.nano

/-- The leap seconds that the scale leaves out between two moments.  One is known of only if
the moment that shows the earlier time of day lies in it. -/
def leapSeconds (first last : Moment) : Int :=
  if first.second < last.second ∧ nanosPerSecond ≤ first.nano then 1
  else if last.second < first.second ∧ nanosPerSecond ≤ last.nano then -1
  else 0

/-- The time from `first` to `last` in nanoseconds. -/
def nanosBetween (first last : Moment) : Int :=
  last.instant - first.instant + leapSeconds first last * nanosPerSecond

variable {first last : Moment}

/-- Seconds that are rounded down, and nanoseconds that are left, as one number cut toward
zero. -/
theorem tdiv_nanosPerSecond {seconds : Int} {nanos : Nat} (h : nanos < nanosPerSecond) :
    (seconds * nanosPerSecond + nanos).tdiv nanosPerSecond =
      if seconds < 0 && 0 < nanos then seconds + 1 else seconds := by
  have hsecond : nanosPerSecond = 1000000000 := rfl
  have hsign : (1000000000 : Int).sign = 1 := rfl
  rw [hsecond] at h ⊢
  simp only [Int.tdiv_eq_ediv, Nat.cast_ofNat, hsign, Bool.and_eq_true, decide_eq_true_eq]
  split_ifs <;> omega

theorem elapsed_eq (first last : Moment) : nanosBetween first last =
    (elapsed first last).1 * nanosPerSecond + (elapsed first last).2 ∧
    (elapsed first last).2 < nanosPerSecond := by
  have hleap : leapSeconds first last =
      if first.second < last.second && nanosPerSecond ≤ first.nano then 1
      else if last.second < first.second && nanosPerSecond ≤ last.nano then -1
      else 0 := by
    simp [leapSeconds]
  have hsecond : nanosPerSecond = 1000000000 := rfl
  have hday : secondsPerDay = 86400 := rfl
  simp only [elapsed, ← hleap, nanosBetween, instant]
  generalize leapSeconds first last = leap
  rw [hsecond, hday]
  omega

/-- The whole seconds are the nanoseconds, divided and cut toward zero. -/
theorem secondsSince_eq_tdiv :
    secondsSince first last = (nanosBetween first last).tdiv nanosPerSecond := by
  obtain ⟨heq, hlt⟩ := elapsed_eq first last
  rw [heq, tdiv_nanosPerSecond hlt, secondsSince]

/-- The seconds between two moments of the calendar are a word with a sign. -/
theorem toInt_secondsSince (hfirst : first.IsInCalendar) (hlast : last.IsInCalendar) :
    (Int64.ofInt (secondsSince first last)).toInt = secondsSince first last := by
  have hbounds : -2 ^ 63 ≤ secondsSince first last ∧ secondsSince first last < 2 ^ 63 := by
    have hfirstDate := Date.dayNumber_bounds hfirst.date_valid
    have hlastDate := Date.dayNumber_bounds hlast.date_valid
    have hfirstSecond := hfirst.second_lt
    have hlastSecond := hlast.second_lt
    have hfirstNano := hfirst.nano_lt
    have hlastNano := hlast.nano_lt
    have hsecond : nanosPerSecond = 1000000000 := rfl
    have hday : secondsPerDay = 86400 := rfl
    rw [hsecond] at hfirstNano hlastNano
    rw [hday] at hfirstSecond hlastSecond
    simp only [secondsSince, elapsed, hsecond, hday]
    split_ifs <;> omega
  exact Int64.toInt_ofInt_of_le hbounds.1 hbounds.2

end Moment

end ResourceFaults.Time
