import ResourceFaults.Arguments.Parser
import ResourceFaults.Text.Terminal

/-!
# Settings of the host

The host is the program around a fault engine.  Its own options come first; the
words after them are a fault command, so an option that comes after the first
word belongs to the command.
-/

namespace ResourceFaults.Host

open Arguments (Spelling Effect Grammar Complaint ValueFault Interruption)
open Text (RawText)

/-- The options of the host by name. -/
inductive HostOption where
  | pid
  | statusInterval
  | follow
  | reportFile
  | help
  | version
  deriving DecidableEq, Repr

/-- What the host may be asked instead of being run. -/
inductive Question where
  | help
  | version
  deriving DecidableEq, Repr

/-- The settings of the host. -/
structure Settings where
  pid : Option UInt32 := none
  statusInterval : UInt64 := 5
  follow : Bool := false
  reportFile : Option RawText := none
  deriving DecidableEq, Repr, Inhabited

namespace HostOption

/-- All options, in the order in which they are listed. -/
def all : List HostOption := [pid, statusInterval, follow, reportFile, help, version]

/-- How an option is spelled. -/
def spelling : HostOption → Spelling
  | pid => ⟨none, "pid", some "PID"⟩
  | statusInterval => ⟨none, "status-interval", some "STATUS_INTERVAL"⟩
  | follow => ⟨none, "follow", none⟩
  | reportFile => ⟨none, "report-file", some "REPORT_FILE"⟩
  | help => ⟨some 'h', "help", none⟩
  | version => ⟨some 'V', "version", none⟩

/-- What an option is for. -/
def purpose : HostOption → String
  | pid => "Target process (defaults to this process)"
  | statusInterval => "Seconds between status lines [default: 5]"
  | follow => "Keep reading fault commands from stdin, one per line"
  | reportFile => "Write a JSON session report here on exit"
  | help => "Print help"
  | version => "Print version"

/-- What an option does with its value. -/
def read : HostOption → Option RawText → Except ValueFault (Effect Settings Question)
  | pid, v => (Arguments.readHalfWord v).map fun n => .change fun s => { s with pid := some n }
  | statusInterval, v =>
    (Arguments.readWord v).map fun n => .change fun s => { s with statusInterval := n }
  | follow, _ => .ok (.change fun s => { s with follow := true })
  | reportFile, v =>
    (Arguments.readPath v).map fun p => .change fun s => { s with reportFile := some p }
  | help, _ => .ok (.answer .help)
  | version, _ => .ok (.answer .version)

/-- Whether an option is a setting. -/
def isSetting : HostOption → Bool
  | help | version => false
  | _ => true

/-- The grammar of the command line.  A message about it goes straight to the
error stream. -/
def grammar : Grammar HostOption Settings Question where
  program := "fault-injector"
  options := all
  spelling := spelling
  read := read
  grouped := isSetting
  words := some "COMMAND"
  footer := "\nFor more information, try '--help'.\n"
  display := Text.streamed
  blank := {}

/-- The first column of the list of options. -/
def column (o : HostOption) : String :=
  let s := o.spelling
  (match s.short with
    | some c => "  -" ++ c.toString ++ ", "
    | none => "      ") ++ s.name

/-- One line of the list of options. -/
def line (o : HostOption) : String :=
  let width := (all.map fun o => o.column.length).foldl max 0
  o.column ++ String.ofList (List.replicate (width - o.column.length) ' ') ++ "  " ++ o.purpose

end HostOption

/-- The answer to a question. -/
def Question.answer : Question → List String
  | .help =>
    [ "Inject CPU or memory exhaustion faults",
      "",
      "Usage: fault-injector [OPTIONS] [COMMAND]...",
      "",
      "Arguments:",
      "  [COMMAND]...  Fault command, e.g. `cpu -d 30 -t 4`, `mem -m 64 -k` or `stop`",
      "",
      "Options:" ] ++ HostOption.all.map HostOption.line
  | .version => ["fault-injector 0.1.0"]

/-- The text of every word, if all of them are text. -/
def wordTexts? : List RawText → Option (List String)
  | [] => some []
  | word :: words =>
    match RawText.text? word, wordTexts? words with
    | some s, some rest => some (s :: rest)
    | _, _ => none

/-- Reads a command line: the settings, and the words of the fault command. -/
def Settings.parse (arguments : List RawText) :
    Except (Interruption HostOption Question) (Settings × List String) :=
  match HostOption.grammar.parse arguments with
  | .error interruption => .error interruption
  | .ok (settings, words) =>
    match wordTexts? words with
    | some texts => .ok (settings, texts)
    | none => .error (.complaint .brokenWord)

end ResourceFaults.Host
