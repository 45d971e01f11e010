import ResourceFaults.Cpu.Worker
import ResourceFaults.Memory.Worker
import ResourceFaults.Request
import ResourceFaults.Target

/-!
# The fault engine

An engine carries out requests.  `cpu` raises the liveness signal and launches
workers; `mem` raises it and launches one worker with a fresh copy of the
allocator; `stop` lowers it.  There is one signal for all workers, so a later
`cpu` or `mem` raises it for the earlier workers too.

Each worker needs a thread of the system.  Where a start runs out of threads
(`Shortage`) it is broken off with an error, but by then the signal is up and
earlier workers have their threads.

`Engine.step` is the engine as a system of moves: a request arrives, or something
happens by itself (`Tick`).  Any sequence of moves is a run.
-/

namespace ResourceFaults

/-- A worker of either kind. -/
inductive Worker (σ : Type) where
  | cpu (w : CpuWorker)
  | memory (w : MemoryWorker σ)
  deriving Repr

namespace Worker

variable {ε σ : Type}

/-- The kind of a worker. -/
def kind : Worker σ → WorkerKind
  | cpu _ => .cpu
  | memory _ => .memory

/-- The deadline of a worker. -/
def deadline : Worker σ → Deadline
  | cpu w => w.deadline
  | memory w => w.deadline

/-- One step. -/
def step (a : Allocator ε σ) (s : Scene ε) : Worker σ → Option (Scene ε × Worker σ)
  | cpu w => (w.step s).map fun (s, w) => (s, cpu w)
  | memory w => (w.step a s).map fun (s, w) => (s, memory w)

/-- Whether a worker has ended. -/
def isGone : Worker σ → Bool
  | cpu w => w.stage == .gone
  | memory w => w.stage == .gone

/-- Whether a worker will record nothing more before the signal drops or its
deadline passes, work of a CPU worker apart. -/
def isSettled (s : Scene ε) : Worker σ → Bool
  | cpu w => w.isSettled s
  | memory w => w.isSettled s

/-- The end of a nap, while a worker naps. -/
def wake? : Worker σ → Option Nanos
  | cpu _ => none
  | memory w => w.wake?

/-- A worker that gets no thread: its time is up at once, and it only leaves. -/
def withoutThread (now : Nanos) : Worker σ → Worker σ
  | cpu w => cpu { w with deadline := ⟨now⟩, stage := .leaving }
  | memory w => memory { w with deadline := ⟨now⟩, stage := .leaving }

end Worker

/-- A start that runs out of threads: how many it gets, and the failure that it
meets instead of the next one. -/
structure Shortage where
  threads : Nat
  cause : SystemFailure
  deriving DecidableEq, Repr

/-- The workers of a start that runs out of threads, up to the one that gets
none. -/
def Shortage.cut {σ : Type} (s : Shortage) (now : Nanos) (workers : List (Worker σ)) :
    List (Worker σ) :=
  workers.take s.threads ++ (workers[s.threads]?.map (·.withoutThread now)).toList

/-- What a request has done. -/
inductive Outcome where
  | cpuStarted (threads : UInt64) (duration : Nanos)
  | memStarted (plan : MemoryPlan) (duration : Nanos)
  | stopped
  | ignored (command : String)
  deriving DecidableEq, Repr

/-- The wording of an outcome. -/
def Outcome.message : Outcome → String
  | cpuStarted threads duration =>
    s!"cpu fault started: {threads} worker(s) for {duration / 1000000000}s"
  | memStarted plan duration =>
    s!"memory fault started: {plan.blockBytes / 1048576} MB every {plan.interval / 1000000} ms"
      ++ s!" for {duration / 1000000000}s" ++ if plan.keep then " (keeping blocks)" else ""
  | stopped => "all faults stopped"
  | ignored command => "ignored unknown command " ++ Text.quoted command

/-- An engine: what its workers share, the allocator that a new worker gets, the
workers that have been launched and are yet to enter, those that have entered,
and what the starts to come meet, one after the other: a shortage of threads, or
none.  A start that is not in the list gets all its threads. -/
structure Engine (ε σ : Type) where
  scene : Scene ε
  template : σ
  launching : List (Worker σ) := []
  workers : List (Worker σ) := []
  shortages : List (Option Shortage) := []
  deriving Repr

/-- What happens in an engine by itself: one of the workers that were launched
enters, a worker makes one step, or time passes. -/
inductive Tick where
  | launch (waiting : Nat)
  | work (worker : Nat)
  | pass (time : Nanos)
  deriving DecidableEq, Repr

/-- A move of an engine: a request arrives, or something happens by itself. -/
inductive Move where
  | deliver (request : Request)
  | tick (t : Tick)
  deriving DecidableEq, Repr

namespace Engine

variable {ε σ : Type}

/-- Raises the signal and launches workers. -/
def arm (e : Engine ε σ) (workers : List (Worker σ)) : Engine ε σ :=
  { e with
    scene := { e.scene with armed := true }
    launching := e.launching ++ workers
    shortages := e.shortages.tail }

/-- Lowers the signal. -/
def disarm (e : Engine ε σ) : Engine ε σ :=
  { e with scene := { e.scene with armed := false } }

/-- The deadline of workers that are launched now. -/
def deadlineOf (e : Engine ε σ) (o : Options) : Deadline :=
  Deadline.after e.scene.now o.duration

/-- What a start of so many workers runs into; `none` if each of them gets a
thread. -/
def shortage? (e : Engine ε σ) (count : Nat) : Option Shortage :=
  e.shortages.head?.join.filter (·.threads < count)

/-- The workers of a start that are launched. -/
def enlist (e : Engine ε σ) (workers : List (Worker σ)) : List (Worker σ) :=
  match e.shortage? workers.length with
  | none => workers
  | some shortage => shortage.cut e.scene.now workers

/-- Carries out a start.  The signal is up before the first worker is launched, and
a start that is broken off takes nothing back. -/
def start (e : Engine ε σ) (kind : WorkerKind) (workers : List (Worker σ)) (outcome : Outcome) :
    Engine ε σ × Except FaultError Outcome :=
  (e.arm (e.enlist workers),
    match e.shortage? workers.length with
    | none => .ok outcome
    | some shortage => .error (.spawn kind shortage.cause))

/-- Carries out a request. -/
def execute (e : Engine ε σ) : Request → Engine ε σ × Except FaultError Outcome
  | .cpu o =>
    let worker : CpuWorker := { deadline := e.deadlineOf o }
    e.start .cpu (List.replicate o.threads.toNat (.cpu worker)) (.cpuStarted o.threads o.duration)
  | .mem o =>
    let worker : MemoryWorker σ :=
      { plan := o.memoryPlan, deadline := e.deadlineOf o, allocator := e.template }
    e.start .memory [.memory worker] (.memStarted o.memoryPlan o.duration)
  | .stop => (e.disarm, .ok .stopped)
  | .unrecognized command => (e, .ok (.ignored command))

/-- Reads a request and carries it out. -/
def dispatch (e : Engine ε σ) (text : String) : Engine ε σ × Except FaultError Outcome :=
  match Request.parse text with
  | .ok request => e.execute request
  | .error complaint => (e, .error (.invalidOptions complaint))

/-- Delivers a request to a process.  An engine serves its own process only. -/
def attach (e : Engine ε σ) (processes : ProcessTable) (pid : UInt32) (text : String) :
    Engine ε σ × Except AttachError Outcome :=
  if !processes.isSelf pid then (e, .error (.unsupported pid))
  else
    match processes.probe pid with
    | .error error => (e, .error error)
    | .ok () =>
      let (e, result) := e.dispatch text
      (e, result.mapError .delivery)

/-- One of the workers that were launched enters.  Requests that arrive side by
side launch their workers in any order. -/
def launch? (e : Engine ε σ) (i : Nat) : Option (Engine ε σ) :=
  match e.launching[i]? with
  | none => none
  | some w =>
    some
      { e with
        scene := e.scene.enter w.kind
        launching := e.launching.eraseIdx i
        workers := e.workers ++ [w] }

/-- A worker makes one step. -/
def work? (a : Allocator ε σ) (e : Engine ε σ) (i : Nat) : Option (Engine ε σ) :=
  match e.workers[i]? with
  | none => none
  | some w =>
    (w.step a e.scene).map fun (scene, w) => { e with scene, workers := e.workers.set i w }

/-- Lets time pass. -/
def pass (e : Engine ε σ) (time : Nanos) : Engine ε σ :=
  { e with scene := { e.scene with now := e.scene.now + time } }

/-- What happens by itself; `none` if it cannot happen. -/
def tick (a : Allocator ε σ) (e : Engine ε σ) : Tick → Option (Engine ε σ)
  | .launch i => e.launch? i
  | .work i => e.work? a i
  | .pass time => some (e.pass time)

/-- One move; `none` if it cannot be made. -/
def step (a : Allocator ε σ) (e : Engine ε σ) : Move → Option (Engine ε σ)
  | .deliver request => some (e.execute request).1
  | .tick t => e.tick a t

/-- Moves one after the other; `none` if one of them cannot be made. -/
def run (a : Allocator ε σ) (e : Engine ε σ) : List Move → Option (Engine ε σ)
  | [] => some e
  | move :: moves =>
    match e.step a move with
    | none => none
    | some e => e.run a moves

end Engine

end ResourceFaults
