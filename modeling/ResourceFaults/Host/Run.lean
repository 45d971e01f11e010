import ResourceFaults.Host.Session
import ResourceFaults.Session.Basic

/-!
# A run of the host

`Host.run` is one whole run, from the command line to the exit code.  Of all ways
in which the activities of a session may go it takes one: the loop turns once,
a signal comes if there is one, the reader delivers all its lines, the deadlines
pass, the workers end, and the loop turns until it notices.

What goes wrong before the session starts, or when its report is written, ends
the run with a trace: the error, and its causes numbered from zero.  A loop that
fails ends the run at once.
-/

namespace ResourceFaults.Host

open Text (RawText)
open Arguments (Interruption)

/-! ## Traces -/

/-- The lines of a text, each with an indent in front but the first. -/
def indented (indent : List Char) : List Char → List Char
  | [] => []
  | c :: cs => if c == '\n' then '\n' :: indent ++ indented indent cs else c :: indented indent cs

/-- Causes with their numbers, the lines of each under one another. -/
def numberedCauses : (number : Nat) → List String → List Char
  | _, [] => []
  | number, cause :: causes =>
    let digits := Decimal.digits number
    List.replicate (5 - digits.length) ' ' ++ digits ++ ':' :: ' '
      :: indented (List.replicate 7 ' ') cause.toList ++ '\n' :: numberedCauses (number + 1) causes

/-- An error with its causes.  A single cause has no number. -/
def trace (error : String) (causes : List String) : String :=
  "Error: " ++ error ++
    match causes with
    | [] => "\n"
    | [cause] =>
      let indent := List.replicate 4 ' '
      "\n\nCaused by:\n" ++ String.ofList (indent ++ indented indent cause.toList) ++ "\n"
    | causes => "\n\nCaused by:\n" ++ String.ofList (numberedCauses 0 causes)

/-! ## Results -/

/-- What a run has left: its output, its exit code, and the text of the report
if one was written. -/
structure Result where
  out : List String := []
  err : String := ""
  exit : Nat := 0
  report : Option SessionReport := none

namespace Result

/-- Output of a session, line by line. -/
def print (r : Result) (output : List Output) : Result :=
  output.foldl
    (fun r o =>
      match o with
      | .out line => { r with out := r.out ++ [line] }
      | .err line => { r with err := r.err ++ line ++ "\n" })
    r

/-- The end of a run that failed. -/
def fail (r : Result) (error : String) (causes : List String) : Result :=
  { r with err := r.err ++ trace error causes, exit := 1 }

/-- The end of a run whose loop failed. -/
def overflow (r : Result) : Result :=
  { r with err := r.err ++ "overflow when adding duration to instant\n", exit := 101 }

end Result

/-! ## The start of a session -/

/-- The lines that show the settings. -/
def banner (t : Task) (command : String) : List Output :=
  let shown := if command.isEmpty then "<none>" else command
  let settings := t.settings
  ([ "=== FAULT INJECTOR ===",
     s!"[CONFIG] Target pid: {t.target}",
     "[CONFIG] Command: " ++ shown,
     s!"[CONFIG] Status interval: {settings.statusInterval} seconds",
     s!"[CONFIG] Follow stdin: {settings.follow}" ]
    ++ (settings.reportFile.map fun path => "[CONFIG] Report file: " ++ RawText.shown path).toList
    ++ [""]).map .out

/-- All workers that were launched enter. -/
def launchAll {ε σ : Type} (e : Engine ε σ) : Engine ε σ :=
  e.launching.foldl (fun e _ => (e.launch? 0).getD e) e

/-- A session whose first command has been delivered, or the error that kept it
from starting.  An empty command is not delivered. -/
def start {ε σ : Type} (v : Surroundings) (t : Task) (command : String) (e : Engine ε σ)
    (input : List RawText) : Session ε σ × Option AttachError :=
  let s : Session ε σ :=
    { engine := e
      reading := t.settings.follow
      lines := input
      output := banner t command }
  if command.isEmpty then (s, none)
  else
    match s.deliver v t command with
    | (s, .ok _) => ({ s with engine := launchAll s.engine }, none)
    | (s, .error error) => (s, some error)

/-! ## The course of a session -/

section Course

variable {ε σ : Type} (a : Allocator ε σ) (v : Surroundings) (t : Task)

/-- Turns the loop until it sleeps or ends.  `fuel` bounds its steps; between
two snapshots it makes fewer than ten. -/
def turnLoop : (fuel : Nat) → Session ε σ → Session ε σ
  | 0, s => s
  | fuel + 1, s =>
    match s.loopStep v t with
    | some s => turnLoop fuel s
    | none => s

/-- The reader delivers its lines, one after the other, and then has finished
unless its input stays open. -/
def readAll (stays : Bool) : (fuel : Nat) → Session ε σ → Session ε σ
  | 0, s => s
  | fuel + 1, s =>
    let s := { s with engine := launchAll s.engine }
    if stays && s.lines.isEmpty then s
    else
      match s.readStep v t with
      | some s => readAll stays fuel s
      | none => s

/-- The deadlines pass and the workers end. -/
def endWorkers (s : Session ε σ) : Session ε σ :=
  let e := s.engine.pass s.engine.untilLastDeadline
  { s with engine := e.settle a (ResourceFaults.Session.fuel 1 e) }

/-- The time of the next question of the loop comes. -/
def wakeLoop (s : Session ε σ) : Session ε σ :=
  match s.stage with
  | .sleeping _ wake => { s with engine := s.engine.pass (wake - s.engine.scene.now) }
  | _ => s

/-- The course of a session up to the end of its loop. -/
def course (signal : Option Nat) (s : Session ε σ) : Session ε σ :=
  let s := turnLoop v t 16 s
  if s.stage = .over ∨ s.stage = .failed then s
  else
    let s := match signal with
      | some number => s.signalStep v t number
      | none => s
    let s := readAll v t signal.isSome (s.lines.length + 2) s
    turnLoop v t 16 (wakeLoop (endWorkers a s))

end Course

/-! ## The end of a session -/

/-- The last stop, the summary, and the report. -/
def finish {ε σ : Type} (v : Surroundings) (t : Task)
    (save : RawText → String → Except SystemFailure Unit) (s : Session ε σ) : Result :=
  let s := s.stopFaults v t
  let report := s.report v
  let r := (({} : Result).print s.output).print (report.summary.map .out)
  let done (r : Result) : Result := r.print [.out "", .out "Shutdown complete."]
  match t.settings.reportFile with
  | none => done r
  | some path =>
    let shown := RawText.shown path
    match save path report.save with
    | .ok () =>
      let r := r.print [.out "", .out ("Session report saved: " ++ shown)]
      done { r with report := some report }
    | .error failure =>
      let error := ReportError.file failure
      r.fail ("failed to write session report to " ++ shown) (error.message :: error.causes)

/-- The end of a run: after its loop has failed there is no summary and no report. -/
def conclude {ε σ : Type} (v : Surroundings) (t : Task)
    (save : RawText → String → Except SystemFailure Unit) (s : Session ε σ) : Result :=
  if s.stage = .failed then (({} : Result).print s.output).overflow else finish v t save s

/-! ## The whole run -/

/-- What a run finds: the arguments, standard input and whether it stays open
until a signal comes, and what comes of writing a file. -/
structure Invocation where
  arguments : List RawText
  input : RawText := []
  signal : Option Nat := none
  save : RawText → String → Except SystemFailure Unit

/-- The lines that the reader sees. -/
def Invocation.lines (i : Invocation) : List RawText :=
  inputLines i.signal.isSome i.input

/-- The opening of a run: its task and its session, or the result of a run that
ends before there is a session. -/
def opening {ε σ : Type} (e : Engine ε σ) (v : Surroundings) (arguments lines : List RawText) :
    Except Result (Task × Session ε σ) :=
  match Settings.parse arguments with
  | .error (.answer question) => .error { out := question.answer }
  | .error (.complaint c) => .error { err := HostOption.grammar.message c, exit := 2 }
  | .ok (settings, words) =>
    let t : Task := ⟨settings, settings.pid.getD v.processes.self⟩
    match v.processes.probe t.target with
    | .error error =>
      .error (({} : Result).fail s!"cannot attach to process {t.target}"
        (error.message :: error.causes))
    | .ok () =>
      match start v t (" ".intercalate words) e lines with
      | (s, none) => .ok (t, s)
      | (s, some error) =>
        .error ((({} : Result).print s.output).fail "fault injection failed"
          (error.message :: error.causes))

/-- A run. -/
def run {ε σ : Type} (a : Allocator ε σ) (e : Engine ε σ) (v : Surroundings) (i : Invocation) :
    Result :=
  match opening e v i.arguments i.lines with
  | .error r => r
  | .ok (t, s) => conclude v t i.save (course a v t i.signal s)

end ResourceFaults.Host
