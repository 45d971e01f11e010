import ResourceFaults.Clock
import ResourceFaults.Telemetry

/-!
# What workers share

All workers of an engine see one liveness signal, one set of counters and one
clock.  What lies around the allocator, such as how much memory the system has
left, is shared as well; its type `ε` is chosen by the allocator.
-/

namespace ResourceFaults

/-- What all workers share. -/
structure Scene (ε : Type) where
  armed : Bool := false
  telemetry : Telemetry := {}
  environment : ε
  now : Nanos := 0
  deriving Repr

namespace Scene

variable {ε : Type}

/-- Records something in the counters. -/
def record (s : Scene ε) (recording : Recording) : Scene ε :=
  { s with telemetry := s.telemetry.record recording }

/-- Counts a worker that starts. -/
def enter (s : Scene ε) (kind : WorkerKind) : Scene ε :=
  { s with telemetry := s.telemetry.enter kind }

/-- Counts a worker that ends. -/
def leave (s : Scene ε) (kind : WorkerKind) : Scene ε :=
  { s with telemetry := s.telemetry.leave kind }

/-- Whether a worker with this deadline goes on. -/
def goesOn (s : Scene ε) (deadline : Deadline) : Bool :=
  shouldContinue s.armed deadline s.now

end Scene

end ResourceFaults
