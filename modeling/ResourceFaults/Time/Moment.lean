import ResourceFaults.Time.Date

/-!
# Moments

A moment is a point of universal time to the nanosecond.  The fraction of a
second may reach two full seconds: a fraction of one second or more stands for a
leap second, which follows the second it is counted in.

`Moment.ofLocal?` turns a local time with its offset into universal time, and
`Moment.secondsSince` measures the time between two moments in whole seconds.

A moment has no time zone of its own.  The local time of the system is taken to be
universal time, so whatever is shown or saved in local time has the offset zero here;
a time that is read with another offset is the same point of universal time.
-/

namespace ResourceFaults.Time

/-- A point of universal time: the day, the second of the day, and the
nanoseconds after it. -/
structure Moment where
  date : Date
  second : Nat
  nano : Nat
  deriving DecidableEq, Repr, Inhabited

def secondsPerDay : Nat := 86400

def nanosPerSecond : Nat := 1000000000

namespace Moment

/-- The first moment of the year 1970. -/
def epoch : Moment := ⟨⟨1970, 1, 1⟩, 0, 0⟩

/-- The moment some nanoseconds after the first moment of the year 1970. -/
def afterEpoch (nanos : Nat) : Moment :=
  let seconds := nanos / nanosPerSecond
  ⟨epoch.date.later (seconds / secondsPerDay), seconds % secondsPerDay, nanos % nanosPerSecond⟩

/-- The moment that a clock `offset` seconds ahead of universal time shows as
`shown`; `none` if it leaves the calendar. -/
def ofLocal? (shown : Moment) (offset : Int) : Option Moment :=
  let seconds := (shown.second : Int) - offset
  let second := (seconds % secondsPerDay).toNat
  let date :=
    if seconds < 0 then shown.date.previous?
    else if secondsPerDay ≤ seconds then shown.date.next?
    else some shown.date
  date.map fun d => ⟨d, second, shown.nano⟩

/-- The time from `first` to `last` as seconds and nanoseconds, the latter from
`0` to below one second.  A leap second between the two counts. -/
def elapsed (first last : Moment) : Int × Nat :=
  let days := last.date.dayNumber - first.date.dayNumber
  let seconds := (last.second : Int) - first.second
  let leap : Int :=
    if first.second < last.second && nanosPerSecond ≤ first.nano then 1
    else if last.second < first.second && nanosPerSecond ≤ last.nano then -1
    else 0
  let nanos := (last.nano : Int) - first.nano
  (days * secondsPerDay + seconds + leap + nanos / nanosPerSecond,
    (nanos % nanosPerSecond).toNat)

/-- The time from `first` to `last` in whole seconds, cut toward zero. -/
def secondsSince (first last : Moment) : Int :=
  let (seconds, nanos) := elapsed first last
  if seconds < 0 && 0 < nanos then seconds + 1 else seconds

end Moment

end ResourceFaults.Time
