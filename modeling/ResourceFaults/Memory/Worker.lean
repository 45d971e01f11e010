import ResourceFaults.Memory.Allocator
import ResourceFaults.Options
import ResourceFaults.Scene

/-!
# Memory workers

A memory worker asks for one block after the other, with a pause after each, as
long as the signal is up and its deadline has not passed.  Once a block is
refused it asks for no more and only waits.  A worker that keeps its blocks lets
them go when it ends.

`MemoryWorker.step` is one step of a worker as others can see it: it looks at the
signal and the clock, touches the counters once, or makes one request.  A nap
ends when the clock has reached its end; until then the worker has no step.
-/

namespace ResourceFaults

/-- What a memory worker does next. -/
inductive MemoryStage where
  | polling
  | attempting
  | requesting
  | granted
  | retaining
  | refused
  | pausing
  | napping (wake : Nanos)
  | releasing
  | leaving
  | gone
  deriving DecidableEq, Repr, Inhabited

/-- What a memory worker has done. -/
structure MemorySummary where
  attempts : Nat := 0
  allocated : Nat := 0
  retainedBlocks : Nat := 0
  degraded : Bool := false
  deriving DecidableEq, Repr, Inhabited

/-- A memory worker with an allocator of state `σ`. -/
structure MemoryWorker (σ : Type) where
  plan : MemoryPlan
  deadline : Deadline
  allocator : σ
  stage : MemoryStage := .polling
  retained : Nat := 0
  summary : MemorySummary := {}
  deriving Repr

namespace MemoryWorker

variable {ε σ : Type}

/-- Whether a block has been refused. -/
def isIdle (w : MemoryWorker σ) : Bool :=
  w.summary.degraded

/-- The bytes that are let go with the blocks, at most the greatest word. -/
def releasedBytes (w : MemoryWorker σ) : UInt64 :=
  UInt64.ofNat (saturatingMul w.retained w.plan.blockBytes.toNat)

/-- The time of a pause: the interval of the plan, but not past the deadline. -/
def nap (w : MemoryWorker σ) (now : Nanos) : Nanos :=
  min w.plan.interval (w.deadline.remaining now)

/-- One step of a worker whose next look at the signal and the clock tells it
whether it goes on. -/
def stepTold (a : Allocator ε σ) (goesOn : Bool) (s : Scene ε) (w : MemoryWorker σ) :
    Option (Scene ε × MemoryWorker σ) :=
  match w.stage with
  | .polling =>
    some (s,
      { w with
        stage := if !goesOn then .releasing else if w.isIdle then .pausing else .attempting })
  | .attempting =>
    some (s.record (.attempt w.plan.blockBytes),
      { w with
        stage := .requesting
        summary := { w.summary with attempts := w.summary.attempts + 1 } })
  | .requesting =>
    let reply := a.request s.telemetry s.environment w.allocator w.plan.blockBytes
    some
      ({ s with environment := reply.environment, armed := s.armed && !reply.stops },
        { w with
          allocator := reply.state
          stage := if reply.granted then .granted else .refused })
  | .granted =>
    some (s.record .success,
      { w with
        stage := if w.plan.keep then .retaining else .pausing
        summary := { w.summary with allocated := w.summary.allocated + 1 } })
  | .retaining =>
    some (s.record (.retain w.plan.blockBytes),
      { w with stage := .pausing, retained := w.retained + 1 })
  | .refused =>
    some (s.record .failure,
      { w with stage := .pausing, summary := { w.summary with degraded := true } })
  | .pausing =>
    let nap := w.nap s.now
    some (s, { w with stage := if nap == 0 then .polling else .napping (s.now + nap) })
  | .napping wake => if wake ≤ s.now then some (s, { w with stage := .polling }) else none
  | .releasing =>
    some (s.record (.release (UInt64.ofNat w.retained) w.releasedBytes),
      { w with
        stage := .leaving
        retained := 0
        summary := { w.summary with retainedBlocks := w.retained } })
  | .leaving => some (s.leave .memory, { w with stage := .gone })
  | .gone => none

/-- One step. -/
def step (a : Allocator ε σ) (s : Scene ε) (w : MemoryWorker σ) :
    Option (Scene ε × MemoryWorker σ) :=
  stepTold a (s.goesOn w.deadline) s w

/-- Whether a worker only waits, or has ended. -/
def isSettled (s : Scene ε) (w : MemoryWorker σ) : Bool :=
  match w.stage with
  | .gone => true
  | .polling | .pausing | .napping _ => w.isIdle && s.goesOn w.deadline
  | _ => false

/-- The end of a nap, while a worker naps. -/
def wake? (w : MemoryWorker σ) : Option Nanos :=
  match w.stage with
  | .napping wake => some wake
  | _ => none

end MemoryWorker

end ResourceFaults
