import ResourceFaults.Options.Parser
import ResourceFaults.Text.Blank

/-!
# Requests

A request is one command to the fault engine.  As text it is a command word and
its options, parted by blanks; only the words matter, not the blanks between
them.
-/

namespace ResourceFaults

open Arguments (Complaint)
open Text (RawText)

/-- A command to the fault engine. -/
inductive Request where
  | cpu (options : Options)
  | mem (options : Options)
  | stop
  | unrecognized (command : String)
  deriving DecidableEq, Repr

namespace Request

/-- The request of a list of words.  Only `cpu` and `mem` look at what follows
the command word, and an unknown command is no fault. -/
def ofWords : List String → Except (Complaint FaultOption) Request
  | [] => .ok (.unrecognized "")
  | command :: rest =>
    if command == "cpu" then (Options.parse (rest.map RawText.ofString)).map cpu
    else if command == "mem" then (Options.parse (rest.map RawText.ofString)).map mem
    else if command == "stop" then .ok stop
    else .ok (.unrecognized command)

/-- The request of a text. -/
def parse (text : String) : Except (Complaint FaultOption) Request :=
  ofWords (Text.words text)

end Request

end ResourceFaults
