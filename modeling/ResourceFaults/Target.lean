import ResourceFaults.Error

/-!
# Target processes

A request is meant for one process.  The fault engine serves its own process
only; another process can be probed, but no request can be delivered to it.
-/

namespace ResourceFaults

/-- What the system says of a process number. -/
inductive Presence where
  | present
  | absent
  | forbidden
  | failed (source : SystemFailure)

/-- The processes of a system, seen from one of them. -/
structure ProcessTable where
  self : UInt32
  presence : UInt32 → Presence

namespace ProcessTable

/-- Whether a number is that of the process itself. -/
def isSelf (t : ProcessTable) (pid : UInt32) : Bool :=
  pid == t.self

/-- Asks whether a process exists and may be signalled.  Zero, and numbers of 32
bits, name no process. -/
def probe (t : ProcessTable) (pid : UInt32) : Except AttachError Unit :=
  if pid == 0 || span 31 ≤ pid.toNat then .error (.notFound pid)
  else
    match t.presence pid with
    | .present => .ok ()
    | .absent => .error (.notFound pid)
    | .forbidden => .error (.permissionDenied pid)
    | .failed source => .error (.probe pid source)

end ProcessTable

end ResourceFaults
