/-!
# Busy work

A unit of busy work is one step along the Fibonacci sequence in words of 64 bits.
Only the cost of a step matters, not its value.
-/

namespace ResourceFaults

/-- Two neighbours in the sequence. -/
structure FibonacciLoad where
  previous : UInt64 := 0
  current : UInt64 := 1
  deriving DecidableEq, Repr, Inhabited

namespace FibonacciLoad

/-- One step; sums wrap. -/
def step (l : FibonacciLoad) : FibonacciLoad :=
  ⟨l.current, l.previous + l.current⟩

/-- Several steps. -/
def steps : (count : Nat) → FibonacciLoad → FibonacciLoad
  | 0, l => l
  | count + 1, l => steps count l.step

/-- The current numbers after each of several runs of steps. -/
def currents : FibonacciLoad → (counts : List Nat) → List UInt64
  | _, [] => []
  | l, count :: counts =>
    let l := steps count l
    l.current :: l.currents counts

end FibonacciLoad

end ResourceFaults
