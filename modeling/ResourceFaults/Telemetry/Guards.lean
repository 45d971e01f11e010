import ResourceFaults.Telemetry

/-!
# Guards

A worker is counted as active as long as it holds its guard.  `GuardLedger`
keeps the counters together with the guards that were ever given out, in the
order of entering, so that each guard can be dropped once and only once.
-/

namespace ResourceFaults

/-- The counters and the guards given out so far; `none` stands for a guard that
was dropped. -/
structure GuardLedger where
  telemetry : Telemetry := {}
  guards : List (Option WorkerKind) := []
  deriving DecidableEq, Repr, Inhabited

/-- What can be done with a ledger.  Guards are numbered in the order of
entering. -/
inductive GuardOperation where
  | enter (kind : WorkerKind)
  | drop (guard : Nat)
  | record (recording : Recording)
  | recordVia (guard : Nat) (recording : Recording)
  deriving DecidableEq, Repr

namespace GuardLedger

/-- The kind of a guard that is still held. -/
def held? (l : GuardLedger) (guard : Nat) : Option WorkerKind :=
  l.guards.getD guard none

/-- One operation.  A guard that was dropped, or never given out, does
nothing. -/
def perform (l : GuardLedger) : GuardOperation → GuardLedger
  | .enter kind =>
    { l with telemetry := l.telemetry.enter kind, guards := l.guards ++ [some kind] }
  | .drop guard =>
    match l.held? guard with
    | some kind => { telemetry := l.telemetry.leave kind, guards := l.guards.set guard none }
    | none => l
  | .record recording => { l with telemetry := l.telemetry.record recording }
  | .recordVia guard recording =>
    match l.held? guard with
    | some _ => { l with telemetry := l.telemetry.record recording }
    | none => l

/-- Operations one after the other. -/
def run (l : GuardLedger) (operations : List GuardOperation) : GuardLedger :=
  operations.foldl perform l

end GuardLedger

end ResourceFaults
