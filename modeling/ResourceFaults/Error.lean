import ResourceFaults.Failure
import ResourceFaults.Json.Error
import ResourceFaults.Options.Parser
import ResourceFaults.Telemetry

/-!
# Errors

What can go wrong, by where it goes wrong: in a request, on the way to its
target, in an allocation, or with a report.  Each error has a message, and the
list of its causes, the nearest first.
-/

namespace ResourceFaults

open Arguments (Complaint)

/-- A request that was not carried out. -/
inductive FaultError where
  | invalidOptions (complaint : Complaint FaultOption)
  | spawn (kind : WorkerKind) (source : SystemFailure)

namespace FaultError

/-- The wording of an error. -/
def message : FaultError → String
  | invalidOptions complaint => "Invalid fault options: " ++ FaultOption.complaintMessage complaint
  | spawn kind source => s!"Failed to spawn {kind.name} fault worker: {source.message}"

/-- What led to an error. -/
def causes : FaultError → List String
  | invalidOptions complaint =>
    FaultOption.complaintMessage complaint :: complaint.detail?.toList
  | spawn _ source => [source.message]

end FaultError

/-- A request that did not reach its target, or was not carried out there. -/
inductive AttachError where
  | notFound (pid : UInt32)
  | permissionDenied (pid : UInt32)
  | unsupported (pid : UInt32)
  | probe (pid : UInt32) (source : SystemFailure)
  | delivery (source : FaultError)

namespace AttachError

/-- The wording of an error. -/
def message : AttachError → String
  | notFound pid => s!"Target process {pid} not found"
  | permissionDenied pid => s!"Permission denied for target process {pid}"
  | unsupported pid => s!"Cannot load the fault engine into foreign process {pid}"
  | probe pid source => s!"Failed to probe target process {pid}: {source.message}"
  | delivery source => "Fault invocation rejected: " ++ source.message

/-- What led to an error. -/
def causes : AttachError → List String
  | notFound _ | permissionDenied _ | unsupported _ => []
  | probe _ source => [source.message]
  | delivery source => source.message :: source.causes

end AttachError

/-- A block that was refused. -/
structure AllocationFailed where
  bytes : UInt64
  deriving DecidableEq, Repr

/-- The wording of a refusal. -/
def AllocationFailed.message (e : AllocationFailed) : String :=
  s!"Failed to allocate a block of {e.bytes} bytes"

/-- A report that could not be written or read. -/
inductive ReportError where
  | file (source : SystemFailure)
  | json (source : Json.ReadError)

namespace ReportError

/-- The wording of an error. -/
def message : ReportError → String
  | file source => "IO error: " ++ source.message
  | json source => "JSON serialization error: " ++ source.message

/-- What led to an error. -/
def causes : ReportError → List String
  | file source => [source.message]
  | json source => [source.message]

end ReportError

end ResourceFaults
