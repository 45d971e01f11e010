import ResourceFaults.Host.Run

/-!
# Turns of a session

A session that runs on a real clock goes on in turns.  In a turn the time that
has gone by passes, the reader delivers what has arrived, every worker gets its
share of steps, and the status loop goes on until it sleeps or ends.

A share is a batch of work for a CPU worker, and for a memory worker no more than
one block, so that the memory that is left can be looked up between two blocks.
-/

namespace ResourceFaults.Host

open Text (RawText)

/-- The steps that a worker may make in one turn. -/
def share {σ : Type} : Worker σ → Nat
  | .cpu _ => 2 * cpuBatch.toNat
  | .memory _ => 8

/-- A worker makes up to `count` steps. -/
def workFor {ε σ : Type} (a : Allocator ε σ) (index : Nat) :
    (count : Nat) → Engine ε σ → Engine ε σ
  | 0, e => e
  | count + 1, e =>
    match e.work? a index with
    | some e => workFor a index count e
    | none => e

/-- Every worker uses up its share. -/
def workAll {ε σ : Type} (a : Allocator ε σ) (e : Engine ε σ) : Engine ε σ :=
  (e.workers.map share).zipIdx.foldl (fun e (count, index) => workFor a index count e) e

/-- One turn.  `stays` tells whether more input may arrive. -/
def turn {ε σ : Type} (a : Allocator ε σ) (v : Surroundings) (t : Task) (time : Nanos)
    (arrived : List RawText) (stays : Bool) (s : Session ε σ) : Session ε σ :=
  let s := { s with engine := s.engine.pass time, lines := s.lines ++ arrived }
  let s := readAll v t stays (s.lines.length + 2) s
  turnLoop v t 16 { s with engine := workAll a s.engine }

end ResourceFaults.Host
