import ResourceFaults.Word

/-!
# Durations, instants and deadlines

Durations and instants are numbers of nanoseconds; an instant counts from the
start of the clock.  The clock has a last instant, and a deadline never lies
beyond it.
-/

namespace ResourceFaults

/-- A duration, or an instant of the clock. -/
abbrev Nanos := Nat

namespace Nanos

/-- A number of seconds. -/
def ofSeconds (n : Nat) : Nanos := n * 1000000000

/-- A number of milliseconds. -/
def ofMillis (n : Nat) : Nanos := n * 1000000

/-- Seconds, a half and more rounded up. -/
def roundedSeconds (d : Nanos) : Nat := (d + 500000000) / 1000000000

/-- The last instant of the clock: the last of the seconds that 63 bits can
count. -/
def last : Nanos := ofSeconds (span 63) - 1

/-- A hundred years of 365 days, which stand for every duration that the clock
cannot hold. -/
def farFuture : Nanos := ofSeconds (100 * 365 * 86400)

end Nanos

/-- The instant at which a worker ends on its own. -/
structure Deadline where
  instant : Nanos
  deriving DecidableEq, Repr, Inhabited

namespace Deadline

/-- The deadline `duration` after `now`. -/
def after (now duration : Nanos) : Deadline :=
  if now + duration ≤ Nanos.last then ⟨now + duration⟩
  else if now + Nanos.farFuture ≤ Nanos.last then ⟨now + Nanos.farFuture⟩
  else ⟨now⟩

/-- A deadline has passed at its own instant. -/
def hasPassed (d : Deadline) (now : Nanos) : Bool :=
  d.instant ≤ now

/-- The time up to a deadline; zero once it has passed. -/
def remaining (d : Deadline) (now : Nanos) : Nanos :=
  d.instant - now

end Deadline

/-- Whether a worker goes on: the signal is up and its deadline has not
passed. -/
def shouldContinue (alive : Bool) (deadline : Deadline) (now : Nanos) : Bool :=
  alive && !deadline.hasPassed now

end ResourceFaults
