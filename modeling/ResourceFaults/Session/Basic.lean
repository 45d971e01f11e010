import ResourceFaults.Engine.Settle

/-!
# Sessions with an engine

A session drives one engine step by step and lets it settle after each step.
Several handles onto the engine may exist; they all reach the same engine, so a
step needs a handle that exists and does not depend on which.

The allocator that new workers get may be replaced between two steps.  A session
knows its patience: how many requests a worker makes at most before one is
refused or the signal is lowered.
-/

namespace ResourceFaults

/-- One step of a session. -/
inductive SessionStep (σ : Type) where
  | dispatch (handle : Nat) (text : String)
  | execute (handle : Nat) (request : Request)
  | attach (pid : UInt32) (text : String)
  | clone (handle : Nat)
  | replace (template : σ)

/-- What a step answers. -/
inductive SessionAnswer where
  | outcome (o : Outcome)
  | rejected (e : FaultError)
  | refused (e : AttachError)
  | handles (count : Nat)
  | replaced
  | noHandle

/-- An engine and the handles onto it. -/
structure Session (ε σ : Type) where
  engine : Engine ε σ
  handles : Nat := 1

namespace Session

variable {ε σ : Type}

/-- The answer to a request at a handle. -/
def answer : Except FaultError Outcome → SessionAnswer
  | .ok o => .outcome o
  | .error e => .rejected e

/-- One step, before anything settles. -/
def perform (processes : ProcessTable) (s : Session ε σ) :
    SessionStep σ → Session ε σ × SessionAnswer
  | .dispatch handle text =>
    if handle < s.handles then
      let (engine, result) := s.engine.dispatch text
      ({ s with engine }, answer result)
    else (s, .noHandle)
  | .execute handle request =>
    if handle < s.handles then
      let (engine, result) := s.engine.execute request
      ({ s with engine }, answer result)
    else (s, .noHandle)
  | .attach pid text =>
    let (engine, result) := s.engine.attach processes pid text
    ({ s with engine },
      match result with
      | .ok o => .outcome o
      | .error e => .refused e)
  | .clone handle =>
    if handle < s.handles then ({ s with handles := s.handles + 1 }, .handles (s.handles + 1))
    else (s, .noHandle)
  | .replace template => ({ s with engine := { s.engine with template } }, .replaced)

/-- A bound on the moves until an engine has settled.  A request and the pause
after it take a worker at most eight moves, and its end takes at most eight
more. -/
def fuel (patience : Nat) (e : Engine ε σ) : Nat :=
  (e.launching.length + e.workers.length + 1) * (8 * patience + 16)

/-- Lets the engine settle. -/
def settle (a : Allocator ε σ) (patience : Nat) (s : Session ε σ) : Session ε σ :=
  { s with engine := s.engine.settle a (fuel patience s.engine) }

/-- One step, after which the engine settles. -/
def step (a : Allocator ε σ) (processes : ProcessTable) (patience : σ → Nat)
    (s : Session ε σ) (step : SessionStep σ) : Session ε σ × SessionAnswer :=
  let (s, answer) := s.perform processes step
  (s.settle a (patience s.engine.template), answer)

/-- Steps one after the other: each answer, with the engine as it has settled
after the step. -/
def run (a : Allocator ε σ) (processes : ProcessTable) (patience : σ → Nat) :
    Session ε σ → List (SessionStep σ) → Session ε σ × List (SessionAnswer × Engine ε σ)
  | s, [] => (s, [])
  | s, step :: steps =>
    let (s, answer) := s.step a processes patience step
    let (final, rest) := run a processes patience s steps
    (final, (answer, s.engine) :: rest)

/-- Ends a session: faults are stopped, and their workers end. -/
def finish (a : Allocator ε σ) (patience : σ → Nat) (s : Session ε σ) : Session ε σ :=
  { s with engine := s.engine.disarm }.settle a (patience s.engine.template)

end Session

/-- How many requests a worker makes on a budget before it is refused a block or
lowers the signal, if it ever does. -/
def BudgetState.patience (s : BudgetState) : Nat :=
  s.budget.stopAfter + s.budget.failAfter.getD 0 + 1

/-- A session on a budget. -/
def Session.onBudget (budget : Budget) (shortages : List (Option Shortage) := []) :
    Session (List JournalEntry) BudgetState where
  engine := { scene := { environment := [] }, template := { budget }, shortages }

/-- A session on the heap. -/
def Session.onHeap (readings : Heap.Readings) : Session Heap.Readings Unit where
  engine := { scene := { environment := readings }, template := () }

end ResourceFaults
