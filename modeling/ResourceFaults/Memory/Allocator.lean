import ResourceFaults.Error

/-!
# Allocators

A memory worker asks its allocator for blocks.  An allocator has a state of its
own for each worker, and an environment that all workers share; a request may
also lower the liveness signal.

* `Allocator.heapOn` takes blocks from a heap, but refuses one that would leave
  less memory than a margin.  The heap may be any at all; `Allocator.heap` is the
  case of a heap that tells a list of figures.
* `Allocator.budgeted` grants a fixed number of blocks and keeps a journal.
-/

namespace ResourceFaults

/-- What a request comes to. -/
structure Reply (ε σ : Type) where
  granted : Bool
  stops : Bool
  environment : ε
  state : σ

/-- A source of blocks: what it does with a request for some bytes, made while
the counters stand as given. -/
structure Allocator (ε σ : Type) where
  request : Telemetry → ε → σ → (bytes : UInt64) → Reply ε σ

/-! ## The heap -/

/-- A block of memory: so many bytes, all of them alike. -/
structure Block where
  size : UInt64
  fill : UInt8
  deriving DecidableEq, Repr

/-- The bytes of a block. -/
def Block.bytes (b : Block) : List UInt8 :=
  List.replicate b.size.toNat b.fill

namespace Heap

/-- The memory that stays available by default, in bytes. -/
def defaultMargin : UInt64 := 268435456

/-- The size from which on the heap has no room for a block, whatever memory
there is. -/
def limit : Nat := span 62

/-- Whether a block leaves the margin.  Where the available memory is not known,
every block does. -/
def hasRoom (margin : UInt64) (available : Option UInt64) (bytes : UInt64) : Bool :=
  match available with
  | some available => saturatingAdd bytes.toNat margin.toNat ≤ available.toNat
  | none => true

/-- A block of zeros, unless it would eat into the margin or the heap cannot
reserve it. -/
def allocateFrom (reserves : UInt64 → Bool) (margin : UInt64) (available : Option UInt64)
    (bytes : UInt64) : Except AllocationFailed Block :=
  if !hasRoom margin available bytes then .error ⟨bytes⟩
  else if !reserves bytes then .error ⟨bytes⟩
  else .ok ⟨bytes, 0⟩

/-- A heap: what it tells of the available memory, which blocks it can reserve,
and what becomes of it after a request. -/
structure Supply (ε : Type) where
  available : ε → Option UInt64
  reserves : ε → UInt64 → Bool
  next : ε → ε

/-- Whether a block is below the limit. -/
def reservesBelowLimit (bytes : UInt64) : Bool :=
  bytes.toNat < limit

/-- A block from a heap that can reserve every block below the limit. -/
def allocate (margin : UInt64) (available : Option UInt64) (bytes : UInt64) :
    Except AllocationFailed Block :=
  allocateFrom reservesBelowLimit margin available bytes

/-- The figures for available memory that are still to come.  The last one stays;
without any the memory is not known. -/
abbrev Readings := List (Option UInt64)

/-- The next figure, and those after it. -/
def Readings.next : Readings → Option UInt64 × Readings
  | [] => (none, [])
  | [r] => (r, [r])
  | r :: rest => (r, rest)

/-- Allocates some blocks one after the other. -/
def allocateAll (margin : UInt64) :
    Readings → List UInt64 → List (Except AllocationFailed Block)
  | _, [] => []
  | readings, bytes :: sizes =>
    let (available, readings) := readings.next
    allocate margin available bytes :: allocateAll margin readings sizes

/-- A heap that tells one figure after the other. -/
def Readings.supply : Supply Readings where
  available readings := readings.next.1
  reserves _ := reservesBelowLimit
  next readings := readings.next.2

end Heap

/-- A heap, with a margin that stays available. -/
def Allocator.heapOn {ε : Type} (heap : Heap.Supply ε) (margin : UInt64) : Allocator ε Unit where
  request _ environment _ bytes :=
    { granted :=
        (Heap.allocateFrom (heap.reserves environment) margin (heap.available environment)
          bytes).isOk
      stops := false
      environment := heap.next environment
      state := () }

/-- A heap that tells one figure after the other, with a margin that stays
available. -/
def Allocator.heap (margin : UInt64) : Allocator Heap.Readings Unit :=
  .heapOn Heap.Readings.supply margin

/-! ## Budgets -/

/-- How many requests are granted, and which request lowers the signal; `0`
stands for none. -/
structure Budget where
  failAfter : Option Nat
  stopAfter : Nat
  deriving DecidableEq, Repr, Inhabited

/-- A budget and the number of requests made on it. -/
structure BudgetState where
  budget : Budget
  calls : Nat := 0
  deriving DecidableEq, Repr, Inhabited

/-- One request in a journal: its size, and the counters when it was made. -/
structure JournalEntry where
  bytes : UInt64
  telemetry : Telemetry
  deriving DecidableEq, Repr

/-- Grants blocks up to a budget.  Every request is entered in the journal. -/
def Allocator.budgeted : Allocator (List JournalEntry) BudgetState where
  request telemetry journal state bytes :=
    let calls := state.calls + 1
    { granted := match state.budget.failAfter with
        | some limit => calls ≤ limit
        | none => true
      stops := calls == state.budget.stopAfter
      environment := journal ++ [⟨bytes, telemetry⟩]
      state := { state with calls } }

end ResourceFaults
