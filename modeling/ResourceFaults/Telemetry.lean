import ResourceFaults.Word

/-!
# Telemetry

Twelve counters tell what the faults of a process have done.  Every worker adds
to the same counters, so what a counter holds is the sum over all workers; a
counter that passes `2 ^ 64` starts again at zero.

The gauges `cpuActive` and `memActive` go up when a worker enters and down when
it leaves.  The gauges `retainedBlocks` and `retainedBytes` go up with each block
that a worker keeps and down when the worker lets its blocks go.
`lastBlockBytes` is the size of the latest attempt.  The others only grow.
-/

namespace ResourceFaults

/-- The two kinds of worker. -/
inductive WorkerKind where
  | cpu
  | memory
  deriving DecidableEq, Repr

/-- How a message names a kind of worker. -/
def WorkerKind.name : WorkerKind → String
  | cpu => "cpu"
  | memory => "memory"

/-- The counters. -/
structure Telemetry where
  cpuActive : UInt64 := 0
  cpuLaunched : UInt64 := 0
  cpuIterations : UInt64 := 0
  cpuProgressed : UInt64 := 0
  memActive : UInt64 := 0
  memLaunched : UInt64 := 0
  allocAttempts : UInt64 := 0
  allocSuccesses : UInt64 := 0
  allocFailures : UInt64 := 0
  lastBlockBytes : UInt64 := 0
  retainedBlocks : UInt64 := 0
  retainedBytes : UInt64 := 0
  deriving DecidableEq, Repr, Inhabited

/-- What a worker records while it runs. -/
inductive Recording where
  | iterations (count : UInt64)
  | progress
  | attempt (bytes : UInt64)
  | success
  | failure
  | retain (bytes : UInt64)
  | release (blocks bytes : UInt64)
  deriving DecidableEq, Repr

namespace Telemetry

/-- A worker starts. -/
def enter (t : Telemetry) : WorkerKind → Telemetry
  | .cpu => { t with cpuActive := t.cpuActive + 1, cpuLaunched := t.cpuLaunched + 1 }
  | .memory => { t with memActive := t.memActive + 1, memLaunched := t.memLaunched + 1 }

/-- A worker ends. -/
def leave (t : Telemetry) : WorkerKind → Telemetry
  | .cpu => { t with cpuActive := t.cpuActive - 1 }
  | .memory => { t with memActive := t.memActive - 1 }

/-- A worker records something. -/
def record (t : Telemetry) : Recording → Telemetry
  | .iterations count => { t with cpuIterations := t.cpuIterations + count }
  | .progress => { t with cpuProgressed := t.cpuProgressed + 1 }
  | .attempt bytes => { t with allocAttempts := t.allocAttempts + 1, lastBlockBytes := bytes }
  | .success => { t with allocSuccesses := t.allocSuccesses + 1 }
  | .failure => { t with allocFailures := t.allocFailures + 1 }
  | .retain bytes =>
    { t with retainedBlocks := t.retainedBlocks + 1, retainedBytes := t.retainedBytes + bytes }
  | .release blocks bytes =>
    { t with
      retainedBlocks := t.retainedBlocks - blocks
      retainedBytes := t.retainedBytes - bytes }

/-- The number of workers of both kinds; `none` if 64 bits cannot hold it. -/
def activeWorkers? (t : Telemetry) : Option UInt64 :=
  if t.cpuActive.toNat + t.memActive.toNat ≤ maxWord then some (t.cpuActive + t.memActive)
  else none

/-- What is said of a number of workers that 64 bits cannot hold. -/
def overflowMessage : String := "attempt to add with overflow"

/-- Whether no worker of either kind is active. -/
def isIdle (t : Telemetry) : Bool :=
  t.cpuActive == 0 && t.memActive == 0

end Telemetry

end ResourceFaults
