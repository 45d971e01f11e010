import ResourceFaults.Cpu.Load
import ResourceFaults.Scene

/-!
# CPU workers

A CPU worker works as long as the signal is up and its deadline has not passed.
It counts its own steps and publishes them in batches; the first full batch also
counts it as a worker that has made progress.  What is left of the count is
published when the worker ends.

`CpuWorker.step` is one step of a worker as others can see it: it looks at the
signal and the clock, works, or touches the counters, but never two of these.
-/

namespace ResourceFaults

/-- The steps of work in a full batch. -/
def cpuBatch : UInt64 := 65536

/-- What a CPU worker does next. -/
inductive CpuStage where
  | polling
  | working
  | publishing
  | announcing
  | closing
  | leaving
  | gone
  deriving DecidableEq, Repr, Inhabited

/-- A CPU worker. -/
structure CpuWorker where
  deadline : Deadline
  stage : CpuStage := .polling
  load : FibonacciLoad := {}
  pending : UInt64 := 0
  progressed : Bool := false
  deriving DecidableEq, Repr, Inhabited

namespace CpuWorker

variable {ε : Type}

/-- One step. -/
def step (s : Scene ε) (w : CpuWorker) : Option (Scene ε × CpuWorker) :=
  match w.stage with
  | .polling => some (s, { w with stage := if s.goesOn w.deadline then .working else .closing })
  | .working =>
    let pending := w.pending + 1
    some (s,
      { w with
        load := w.load.step
        pending
        stage := if pending == cpuBatch then .publishing else .polling })
  | .publishing =>
    some (s.record (.iterations w.pending),
      { w with pending := 0, stage := if w.progressed then .polling else .announcing })
  | .announcing => some (s.record .progress, { w with progressed := true, stage := .polling })
  | .closing =>
    some (s.record (.iterations w.pending), { w with pending := 0, stage := .leaving })
  | .leaving => some (s.leave .cpu, { w with stage := .gone })
  | .gone => none

/-- Whether a worker has nothing to do but work, or has ended. -/
def isSettled (s : Scene ε) (w : CpuWorker) : Bool :=
  match w.stage with
  | .gone => true
  | .polling => s.goesOn w.deadline
  | _ => false

end CpuWorker

end ResourceFaults
