import ResourceFaults.Engine.Settle
import ResourceFaults.Host.Settings
import ResourceFaults.Report.Format
import ResourceFaults.Text.Lines

/-!
# A session of the host

A session has an engine and three activities around it, which run side by side:

* the status loop takes a snapshot, asks whether the session is over, and waits
  for the next turn while it asks again and again;
* the reader delivers the lines of standard input one by one, and then says that
  it has finished;
* a signal from outside stops all faults and the session.

A session is over when it was stopped from outside, or when no worker is active
and the reader has finished.  The loop asks these things one after the other, and
anything may happen in between.  Where the clock cannot hold the time of its next
turn the loop fails instead of waiting.

`Session.step` is one step of one activity, or one tick of the engine.
-/

namespace ResourceFaults.Host

open Text (RawText RawChar)

/-- Where the status loop stands.  `next` is the time of the next turn while the
loop waits for it, and `none` right after a snapshot. -/
inductive LoopStage where
  | recording
  | askingRunning (next : Option Nanos)
  | askingWorkers (next : Option Nanos)
  | askingReader (next : Option Nanos)
  | waiting (next : Nanos)
  | sleeping (next wake : Nanos)
  | over
  | failed
  deriving DecidableEq, Repr

/-- The time between two questions of the loop while it waits. -/
def pollSlice : Nanos := Nanos.ofMillis 100

/-- A line of output, to standard output or to standard error. -/
inductive Output where
  | out (line : String)
  | err (line : String)
  deriving DecidableEq, Repr

/-- What a session sees of the world: the processes, the date and the usage of
its own process. -/
structure Surroundings where
  processes : ProcessTable
  moment : Nanos → Time.Moment
  usage : Nanos → Option ProcessUsage

/-- What a session is asked to do. -/
structure Task where
  settings : Settings
  target : UInt32

/-- A session. -/
structure Session (ε σ : Type) where
  engine : Engine ε σ
  running : Bool := true
  reading : Bool
  lines : List RawText
  stage : LoopStage := .recording
  commands : List String := []
  snapshots : List Snapshot := []
  output : List Output := []

/-- A step of one activity, or what happens in the engine by itself. -/
inductive SessionMove where
  | loop
  | read
  | signal (number : Nat)
  | engine (tick : Tick)
  deriving DecidableEq, Repr

namespace Session

variable {ε σ : Type}

/-- Prints lines. -/
def print (s : Session ε σ) (lines : List Output) : Session ε σ :=
  { s with output := s.output ++ lines }

/-- Delivers a command; one that is carried out is recorded, and either way a
line tells what came of it. -/
def deliver (v : Surroundings) (t : Task) (s : Session ε σ) (command : String) :
    Session ε σ × Except AttachError Outcome :=
  let (engine, result) := s.engine.attach v.processes t.target command
  let s := { s with engine }
  match result with
  | .ok outcome =>
    ({ s with commands := s.commands ++ [command] }.print [.out ("[INJECT] " ++ outcome.message)],
      .ok outcome)
  | .error e => (s, .error e)

/-- Stops all faults. -/
def stopFaults (v : Surroundings) (t : Task) (s : Session ε σ) : Session ε σ :=
  let (engine, result) := s.engine.attach v.processes t.target "stop"
  let s := { s with engine }
  match result with
  | .ok _ => s
  | .error e => s.print [.err ("[ERROR] Failed to stop faults: " ++ e.message)]

/-! ## The status loop -/

/-- Takes a snapshot and prints its status. -/
def takeSnapshot (v : Surroundings) (s : Session ε σ) : Session ε σ :=
  let now := s.engine.scene.now
  let snapshot : Snapshot :=
    { iteration := UInt64.ofNat (s.snapshots.length + 1)
      timestamp := v.moment now
      telemetry := s.engine.scene.telemetry
      usage := v.usage now }
  { s with snapshots := s.snapshots ++ [snapshot] }.print (snapshot.statusLines.map .out)

/-- Where the loop goes when the session is over. -/
def whenOver : (next : Option Nanos) → LoopStage
  | none => .over
  | some _ => .recording

/-- The time between two turns; it is never less than a second. -/
def interval (t : Task) : Nanos :=
  Nanos.ofSeconds (max t.settings.statusInterval.toNat 1)

/-- Where the loop goes when the session is not over.  The next turn must not lie
beyond the last instant of the clock. -/
def whenNotOver (t : Task) (now : Nanos) : (next : Option Nanos) → LoopStage
  | none => if now + interval t ≤ Nanos.last then .waiting (now + interval t) else .failed
  | some next => .sleeping next (now + pollSlice)

/-- One step of the status loop. -/
def loopStep (v : Surroundings) (t : Task) (s : Session ε σ) : Option (Session ε σ) :=
  let now := s.engine.scene.now
  match s.stage with
  | .recording => some { s.takeSnapshot v with stage := .askingRunning none }
  | .askingRunning next =>
    some { s with stage := if s.running then .askingWorkers next else whenOver next }
  | .askingWorkers next =>
    some
      { s with
        stage := if s.engine.scene.telemetry.isIdle then .askingReader next
          else whenNotOver t now next }
  | .askingReader next =>
    some { s with stage := if s.reading then whenNotOver t now next else whenOver next }
  | .waiting next =>
    some { s with stage := if now < next then .askingRunning (some next) else .recording }
  | .sleeping next wake => if wake ≤ now then some { s with stage := .waiting next } else none
  | .over | .failed => none

/-! ## The reader -/

/-- One line of standard input.  A line of blanks is skipped.  After a line that
is not text no more lines are read. -/
def readLine (v : Surroundings) (t : Task) (s : Session ε σ) (line : RawText)
    (rest : List RawText) : Session ε σ :=
  match RawText.chars? line with
  | none =>
    { s with lines := [] }.print
      [.err ("[ERROR] Failed to read command: " ++ SystemFailure.notText.message)]
  | some cs =>
    let s := { s with lines := rest }
    let command := Text.trimChars cs
    if command.isEmpty then s
    else
      match s.deliver v t (String.ofList command) with
      | (s, .ok _) => s
      | (s, .error e) => s.print [.err ("[ERROR] " ++ e.message)]

/-- One step of the reader: a line, or, after the last line, that it has
finished.  A command is delivered in full before the next line is read. -/
def readStep (v : Surroundings) (t : Task) (s : Session ε σ) : Option (Session ε σ) :=
  if !s.reading || !s.engine.launching.isEmpty then none
  else
    match s.lines with
    | [] => some { s with reading := false }
    | line :: rest => some (s.readLine v t line rest)

/-! ## Signals -/

/-- A signal from outside. -/
def signalStep (v : Surroundings) (t : Task) (s : Session ε σ) (number : Nat) : Session ε σ :=
  let s := s.print [.out "", .out s!"[!] Received signal {number}, stopping all faults..."]
  { s.stopFaults v t with running := false }

/-! ## Steps -/

/-- One step; `none` if it cannot be made. -/
def step (a : Allocator ε σ) (v : Surroundings) (t : Task) (s : Session ε σ) :
    SessionMove → Option (Session ε σ)
  | .loop => s.loopStep v t
  | .read => s.readStep v t
  | .signal number => some (s.signalStep v t number)
  | .engine tick => (s.engine.tick a tick).map fun engine => { s with engine }

/-- Steps one after the other; `none` if one of them cannot be made. -/
def run (a : Allocator ε σ) (v : Surroundings) (t : Task) (s : Session ε σ) :
    List SessionMove → Option (Session ε σ)
  | [] => some s
  | move :: moves =>
    match s.step a v t move with
    | none => none
    | some s => s.run a v t moves

/-- The report of a session that has ended. -/
def report (v : Surroundings) (s : Session ε σ) : SessionReport :=
  SessionReport.new (v.moment s.engine.scene.now) s.commands s.snapshots

end Session

/-- The lines of standard input that can be read.  While the input stays open a
line can be read once its end has arrived. -/
def inputLines (stays : Bool) (input : RawText) : List RawText :=
  let lines := Text.lines (.char '\n') (.char '\r') input
  if stays && input.getLast? != some (.char '\n') then lines.dropLast else lines

end ResourceFaults.Host
