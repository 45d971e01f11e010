import ResourceFaults.Arguments.Parser
import ResourceFaults.Options
import ResourceFaults.Text.Terminal

/-!
# Options as arguments

The spelling of the options of a fault.  There are five, each may come once, in
any order, and nothing else may come with them.
-/

namespace ResourceFaults

open Arguments (Spelling Effect Grammar Complaint ValueFault)
open Text (RawText)

/-- The options of a fault by name. -/
inductive FaultOption where
  | duration
  | threads
  | memory
  | sleep
  | keep
  deriving DecidableEq, Repr

namespace FaultOption

/-- How an option is spelled. -/
def spelling : FaultOption → Spelling
  | duration => ⟨some 'd', "duration", some "DURATION_SECS"⟩
  | threads => ⟨some 't', "threads", some "THREADS"⟩
  | memory => ⟨some 'm', "memory", some "BLOCK_MIB"⟩
  | sleep => ⟨some 's', "sleep", some "SLEEP_MS"⟩
  | keep => ⟨some 'k', "keep", none⟩

/-- What an option does with its value. -/
def read : FaultOption → Option RawText → Except ValueFault (Effect Options Empty)
  | duration, v => (Arguments.readWord v).map fun n => .change fun o => { o with durationSecs := n }
  | threads, v => (Arguments.readWord v).map fun n => .change fun o => { o with threads := n }
  | memory, v => (Arguments.readHalfWord v).map fun n => .change fun o => { o with blockMib := n }
  | sleep, v => (Arguments.readWord v).map fun n => .change fun o => { o with sleepMs := n }
  | keep, _ => .ok (.change fun o => { o with keep := true })

/-- The grammar of the options of a fault.  A message about them is a text. -/
def grammar : Grammar FaultOption Options Empty where
  program := "fault"
  options := [duration, threads, memory, sleep, keep]
  spelling := spelling
  read := read
  grouped _ := true
  words := none
  footer := ""
  display := Text.plain
  blank := {}

/-- The wording of a complaint about options. -/
def complaintMessage (c : Complaint FaultOption) : String :=
  grammar.message c

end FaultOption

/-- Reads options; the size of a block is brought within its limit. -/
def Options.parse (arguments : List RawText) : Except (Complaint FaultOption) Options :=
  match FaultOption.grammar.parse arguments with
  | .ok (o, _) => .ok o.clamped
  | .error (.complaint c) => .error c
  | .error (.answer i) => i.elim

end ResourceFaults
