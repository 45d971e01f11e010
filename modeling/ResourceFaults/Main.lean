import ResourceFaults.Host.System
import ResourceFaults.Host.Turn

/-!
# The command line

Runs the host on the clock and the memory of the system.  `Host.opening` reads
the arguments, `Host.turn` moves the session on again and again, and
`Host.conclude` ends it; here the texts of the system and standard input are read,
and the output is written.

What the workers stand for is made real: as many threads do busy work as CPU
workers are active, and as much memory is held as blocks are retained.
-/

namespace ResourceFaults.Host

open Text (RawText)

/-- A session on the heap. -/
abbrev HeapSession := Session Heap.Readings Unit

/-- A text of the system; empty if it cannot be read. -/
def systemText (path : String) : IO String := do
  try IO.FS.readFile path catch _ => return ""

/-- The texts of the system as they are now. -/
def systemTexts : IO SystemTexts := do
  return {
    process := ← systemText "/proc/self/stat"
    memory := ← systemText "/proc/self/status"
    pages := ← systemText "/proc/self/statm"
    available := ← systemText "/proc/meminfo"
    events := ← systemText "/proc/stat"
    uptime := ← systemText "/proc/uptime" }

/-- The surroundings of a session.  Of all other processes only its target is
looked up. -/
def surroundings (texts : SystemTexts) (target : Option UInt32) : IO Surroundings := do
  let found ← match target with
    | some pid => pure !(← systemText s!"/proc/{pid}/stat").isEmpty
    | none => pure false
  let self := texts.self?.getD 0
  return {
    processes :=
      { self
        presence := fun pid =>
          if pid == self || (found && target == some pid) then .present else .absent }
    moment := fun _ => texts.moment
    usage := fun _ => texts.usage? }

/-- Writes output that has piled up. -/
def write (out : List String) (err : String) : IO Unit := do
  for line in out do IO.println line
  (← IO.getStdout).flush
  IO.eprint err

/-- Collects standard input until it ends. -/
partial def listen (input : IO.FS.Stream) (arrived : IO.Ref (ByteArray × Bool)) : IO Unit := do
  let bytes ← input.read 4096
  arrived.modify fun (before, _) => (before ++ bytes, bytes.isEmpty)
  if !bytes.isEmpty then listen input arrived

/-- Busy work until it is no longer wanted. -/
partial def burn (wanted : IO.Ref Bool) (load : FibonacciLoad) : IO Unit := do
  if ← wanted.get then burn wanted (load.steps cpuBatch.toNat)

/-- What is made real: the threads that do busy work, and the blocks that are
held. -/
structure Burden where
  threads : List (IO.Ref Bool) := []
  blocks : List ByteArray := []

/-- Brings the threads to a number. -/
partial def Burden.setThreads (b : Burden) (count : Nat) : IO Burden := do
  if b.threads.length < count then
    let wanted ← IO.mkRef true
    let _ ← IO.asTask (burn wanted {}) .dedicated
    Burden.setThreads { b with threads := wanted :: b.threads } count
  else
    match b.threads with
    | wanted :: rest =>
      if count < b.threads.length then
        wanted.set false
        Burden.setThreads { b with threads := rest } count
      else return b
    | [] => return b

/-- Brings the blocks that are held to a number of bytes. -/
def Burden.setBytes (b : Burden) (bytes : Nat) : Burden :=
  let held := b.blocks.foldl (fun n block => n + block.size) 0
  if held < bytes then
    { b with blocks := ⟨Array.replicate (bytes - held) 0⟩ :: b.blocks }
  else if bytes < held then { b with blocks := [⟨Array.replicate bytes 0⟩] }
  else b

/-- Takes turns until the loop of the session has ended. -/
partial def live (t : Task) (arrived : IO.Ref (ByteArray × Bool)) (taken : Nat) (start : Nat)
    (b : Burden) (s : HeapSession) : IO HeapSession := do
  let texts ← systemTexts
  let v ← surroundings texts t.settings.pid
  let (bytes, ended) ← arrived.get
  let lines := inputLines (!ended) (RawText.ofBytes bytes.toList)
  let now := (← IO.monoNanosNow) - start
  let environment := [texts.available?]
  let s := { s with engine.scene.environment := environment }
  let s := turn (.heap Heap.defaultMargin) v t (now - s.engine.scene.now) (lines.drop taken)
    (!ended) s
  let r := ({} : Result).print s.output
  write r.out r.err
  let telemetry := s.engine.scene.telemetry
  let b := b.setBytes telemetry.retainedBytes.toNat
  let b ← b.setThreads telemetry.cpuActive.toNat
  if s.stage = .over ∨ s.stage = .failed then
    let _ ← b.setThreads 0
    return { s with output := [] }
  else
    IO.sleep 5
    live t arrived lines.length start b { s with output := [] }

/-- Writes a report. -/
def writeReport (path : RawText) (text : String) : IO (Except SystemFailure Unit) := do
  try
    IO.FS.writeFile path.shown text
    return .ok ()
  catch
    | .noFileOrDirectory _ number _ | .permissionDenied _ number _
    | .inappropriateType _ number _ | .invalidArgument _ number _ =>
      return .error (.code number.toNat)
    | e => return .error (.told (toString e))

/-- One run of the host. -/
def runHost (arguments : List RawText) : IO Nat := do
  let texts ← systemTexts
  let target := match Settings.parse arguments with
    | .ok (settings, _) => settings.pid
    | .error _ => none
  let v ← surroundings texts target
  let engine : Engine Heap.Readings Unit :=
    { scene := { environment := [texts.available?] }, template := () }
  match opening engine v arguments [] with
  | .error r =>
    write r.out r.err
    return r.exit
  | .ok (t, s) =>
    let arrived ← IO.mkRef (ByteArray.empty, !t.settings.follow)
    if t.settings.follow then
      let _ ← IO.asTask (listen (← IO.getStdin) arrived) .dedicated
    let s ← live t arrived 0 (← IO.monoNanosNow) {} s
    let text := ((s.stopFaults v t).report v).save
    let saved ← match t.settings.reportFile, s.stage with
      | none, _ | _, .failed => pure (.ok ())
      | some path, _ => writeReport path text
    let r := conclude v t (fun _ _ => saved) s
    write r.out r.err
    return r.exit

end ResourceFaults.Host

def main (args : List String) : IO UInt32 := do
  let exit ← ResourceFaults.Host.runHost (args.map ResourceFaults.Text.RawText.ofString)
  return exit.toUInt32
