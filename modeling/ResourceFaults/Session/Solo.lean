import ResourceFaults.Session.Basic

/-!
# Workers on their own

A worker, or some workers of one kind, in an engine of their own: how a run from
the first look at the signal to the end comes out.
-/

namespace ResourceFaults.Solo

/-- An engine with some workers that have entered. -/
def engine {ε σ : Type} (armed : Bool) (environment : ε) (template : σ)
    (workers : List (Worker σ)) : Engine ε σ where
  scene :=
    { armed
      telemetry := workers.foldl (fun t w => t.enter w.kind) {}
      environment }
  template
  workers

/-! ## A memory worker -/

/-- A bound on the requests of a memory worker: those of its budget, and one for
each interval up to its deadline. -/
def requests (plan : MemoryPlan) (duration : Nanos) (budget : Budget) : Nat :=
  BudgetState.patience { budget } + duration / plan.interval

/-- A memory worker on a budget, at the end of its run. -/
def runMemory (armed : Bool) (plan : MemoryPlan) (duration : Nanos) (budget : Budget) :
    Engine (List JournalEntry) BudgetState :=
  let state : BudgetState := { budget }
  let worker : MemoryWorker BudgetState :=
    { plan, deadline := Deadline.after 0 duration, allocator := state }
  let e := engine armed [] state [.memory worker]
  e.expire .budgeted (Session.fuel (requests plan duration budget) e)

/-- What the memory workers of an engine have done. -/
def summaries {ε σ : Type} (e : Engine ε σ) : List MemorySummary :=
  e.workers.filterMap fun
    | .memory w => some w.summary
    | .cpu _ => none

/-! ## CPU workers -/

/-- Some CPU workers that have entered. -/
def cpuEngine (count : Nat) (armed : Bool) (duration : Nanos) : Engine Unit Unit :=
  let worker : CpuWorker := { deadline := Deadline.after 0 duration }
  engine armed () () (List.replicate count (.cpu worker))

/-- Whether a worker has made progress, or has ended. -/
def hasProgressed : Worker Unit → Bool
  | .cpu w => w.stage == .gone || (w.progressed && w.stage == .polling)
  | .memory _ => true

/-- An allocator for engines in which nobody asks for a block. -/
def noBlocks : Allocator Unit Unit where
  request _ _ _ _ := ⟨false, false, (), ()⟩

/-- Lets one worker work until it has made progress. -/
def workOn (index : Nat) : (fuel : Nat) → Engine Unit Unit → Engine Unit Unit
  | 0, e => e
  | fuel + 1, e =>
    match e.workers[index]? with
    | none => e
    | some w =>
      if hasProgressed w then e
      else
        match e.work? noBlocks index with
        | none => e
        | some e => workOn index fuel e

/-- A bound on the moves until a worker has made progress: two for each step of
its first batch, and a few more. -/
def progressFuel : Nat :=
  2 * cpuBatch.toNat + 8

/-- CPU workers that work until each has made progress and are then stopped. -/
def runCpu (e : Engine Unit Unit) : Engine Unit Unit :=
  let e := (List.range e.workers.length).foldl (fun e i => workOn i progressFuel e) e
  e.disarm.settle noBlocks (Session.fuel 0 e)

end ResourceFaults.Solo
