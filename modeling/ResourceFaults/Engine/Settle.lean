import ResourceFaults.Engine.Basic

/-!
# Letting an engine settle

Some questions make sense only once things have settled: all workers that were
launched have entered, those that must end have ended, and each memory worker
that goes on has met its first refusal.  `Engine.settle` goes on until then.
Time passes only when every worker that is not settled naps, and no further than
to the end of the next nap.
-/

namespace ResourceFaults.Engine

variable {ε σ : Type}

/-- Whether a worker can be moved toward being settled. -/
def isBusy (a : Allocator ε σ) (e : Engine ε σ) (w : Worker σ) : Bool :=
  !w.isSettled e.scene && (w.step a e.scene).isSome

/-- The end of the next nap among the workers that are not settled. -/
def nextWake? (e : Engine ε σ) : Option Nanos :=
  ((e.workers.filter fun w => !w.isSettled e.scene).filterMap Worker.wake?).min?

/-- What brings an engine nearer to being settled. -/
def nextTick? (a : Allocator ε σ) (e : Engine ε σ) : Option Tick :=
  if !e.launching.isEmpty then some (.launch 0)
  else
    match e.workers.findIdx? (e.isBusy a) with
    | some i => some (.work i)
    | none => e.nextWake?.map fun wake => .pass (wake - e.scene.now)

/-- Lets things happen until the engine is settled.  `fuel` bounds their
number. -/
def settle (a : Allocator ε σ) : (fuel : Nat) → Engine ε σ → Engine ε σ
  | 0, e => e
  | fuel + 1, e =>
    match e.nextTick? a with
    | none => e
    | some t =>
      match e.tick a t with
      | none => e
      | some e => settle a fuel e

/-- The time until the last deadline of the workers that have not ended. -/
def untilLastDeadline (e : Engine ε σ) : Nanos :=
  ((e.workers.filter fun w => !w.isGone).map fun w => w.deadline.remaining e.scene.now).foldl max 0

/-- Settles, lets the last deadline pass, and settles again: no worker is
left. -/
def expire (a : Allocator ε σ) (fuel : Nat) (e : Engine ε σ) : Engine ε σ :=
  let e := e.settle a fuel
  (e.pass e.untilLastDeadline).settle a fuel

end ResourceFaults.Engine
