import Mathlib
import ResourceFaults.Host.Session
import ResourceFaults.Proofs.Host.Replies

/-!
# What one step of a host session does

The status loop and the reader are step functions with many branches.
`Session.LoopMoves` and `Session.ReadMoves` say once what their steps can do, with
one constructor for each branch, and the proofs about sessions split over these.

The reader serves a host that targets its own process (`Surroundings.Serves`).
What it makes of a command is then the answer of the engine: the command is carried
out, recorded and told in a line, or it is rejected with a message
(`Session.deliver_of_ok`, `Session.deliver_of_error`).

`Undisturbed` are the runs into which no signal from outside comes.
-/

namespace ResourceFaults.Host

open Text (RawText)

variable {ε σ : Type}

/-! ## Commands -/

/-- Whether the host targets its own process, and that can be reached. -/
structure Surroundings.Serves (v : Surroundings) (t : Task) : Prop where
  target_eq : t.target = v.processes.self
  probe_eq : v.processes.probe v.processes.self = .ok ()

/-- The line for input that is not text. -/
def brokenLine : String :=
  "[ERROR] Failed to read command: " ++ SystemFailure.notText.message

/-- The command on a line: what is left of the line without the blanks at both
ends, if anything is. -/
def commandOn? (line : String) : Option String :=
  let command := Text.trim line
  if command.isEmpty then none else some command

/-! ## Steps -/

namespace Session

variable {a : Allocator ε σ} {v : Surroundings} {t : Task} {s s' : Session ε σ}

/-- What a session is after a command has been carried out. -/
def accepted (s : Session ε σ) (command : String) (o : Outcome) : Session ε σ :=
  { s with
    engine := (s.engine.dispatch command).1
    commands := s.commands ++ [command]
    output := s.output ++ [.out (injectLine o)] }

/-- What a session is after a command has been rejected. -/
def rejected (s : Session ε σ) (command : String) : Session ε σ :=
  { s with engine := (s.engine.dispatch command).1 }

theorem deliver_of_ok (h : v.Serves t) {command : String} {o : Outcome}
    (hreply : Request.replyTo s.engine.shortages command = .ok o) :
    s.deliver v t command = (s.accepted command o, .ok o) := by
  rw [← Engine.dispatch_reply] at hreply
  rw [deliver, h.target_eq, Engine.attach_of_self h.probe_eq, hreply]
  rfl

theorem deliver_of_error (h : v.Serves t) {command : String} {error : FaultError}
    (hreply : Request.replyTo s.engine.shortages command = .error error) :
    s.deliver v t command = (s.rejected command, .error (.delivery error)) := by
  rw [← Engine.dispatch_reply] at hreply
  rw [deliver, h.target_eq, Engine.attach_of_self h.probe_eq, hreply]
  rfl

/-- The last stop lowers the signal, and is neither recorded nor told. -/
theorem stopFaults_eq (h : v.Serves t) :
    s.stopFaults v t = { s with engine := s.engine.disarm } := by
  have hwords : Text.words "stop" = ["stop"] := by decide +kernel
  have hparse : Request.parse "stop" = .ok .stop := by
    rw [Request.parse, hwords]
    rfl
  rw [stopFaults, h.target_eq, Engine.attach_of_self h.probe_eq, Engine.dispatch_of_ok hparse]
  rfl

/-- A loop that is not over waits, or fails where the clock cannot hold the time of
its next turn. -/
theorem whenNotOver_cases (t : Task) (now : Nanos) (next : Option Nanos) :
    (∃ next', whenNotOver t now next = .waiting next') ∨
      (∃ next' wake, whenNotOver t now next = .sleeping next' wake) ∨
      whenNotOver t now next = .failed ∧ Nanos.last < now + interval t := by
  cases next with
  | none =>
    by_cases hlast : now + interval t ≤ Nanos.last
    · exact .inl ⟨_, if_pos hlast⟩
    · exact .inr (.inr ⟨if_neg hlast, Nat.lt_of_not_le hlast⟩)
  | some next => exact .inr (.inl ⟨_, _, rfl⟩)

theorem whenNotOver_ne_over (t : Task) (now : Nanos) (next : Option Nanos) :
    whenNotOver t now next ≠ .over := by
  obtain ⟨_, h⟩ | ⟨_, _, h⟩ | ⟨h, -⟩ := whenNotOver_cases t now next <;> rw [h] <;> nofun

theorem whenNotOver_ne_askingReader (t : Task) (now : Nanos) (next : Option Nanos)
    {next' : Option Nanos} : whenNotOver t now next ≠ .askingReader next' := by
  obtain ⟨_, h⟩ | ⟨_, _, h⟩ | ⟨h, -⟩ := whenNotOver_cases t now next <;> rw [h] <;> nofun

/-- What a step of the status loop can do. -/
inductive LoopMoves (v : Surroundings) (t : Task) (s : Session ε σ) : Session ε σ → Prop
  | record (hstage : s.stage = .recording) :
    LoopMoves v t s { s.takeSnapshot v with stage := .askingRunning none }
  | askRunning {next : Option Nanos} (hstage : s.stage = .askingRunning next) :
    LoopMoves v t s
      { s with stage := if s.running then .askingWorkers next else whenOver next }
  | askWorkers {next : Option Nanos} (hstage : s.stage = .askingWorkers next) :
    LoopMoves v t s
      { s with
        stage := if s.engine.scene.telemetry.isIdle then .askingReader next
          else whenNotOver t s.engine.scene.now next }
  | askReader {next : Option Nanos} (hstage : s.stage = .askingReader next) :
    LoopMoves v t s
      { s with
        stage := if s.reading then whenNotOver t s.engine.scene.now next else whenOver next }
  | await {next : Nanos} (hstage : s.stage = .waiting next) :
    LoopMoves v t s
      { s with
        stage := if s.engine.scene.now < next then .askingRunning (some next) else .recording }
  | wake {next wake : Nanos} (hstage : s.stage = .sleeping next wake)
      (hwake : wake ≤ s.engine.scene.now) : LoopMoves v t s { s with stage := .waiting next }

theorem loopMoves_of_loopStep (h : s.loopStep v t = some s') : s.LoopMoves v t s' := by
  cases hstage : s.stage with
  | recording =>
    rw [loopStep, hstage] at h
    obtain rfl := Option.some.inj h
    exact .record hstage
  | askingRunning next =>
    rw [loopStep, hstage] at h
    obtain rfl := Option.some.inj h
    exact .askRunning hstage
  | askingWorkers next =>
    rw [loopStep, hstage] at h
    obtain rfl := Option.some.inj h
    exact .askWorkers hstage
  | askingReader next =>
    rw [loopStep, hstage] at h
    obtain rfl := Option.some.inj h
    exact .askReader hstage
  | waiting next =>
    rw [loopStep, hstage] at h
    obtain rfl := Option.some.inj h
    exact .await hstage
  | sleeping next wake =>
    rw [loopStep, hstage] at h
    by_cases hwake : wake ≤ s.engine.scene.now
    · simp only [hwake, if_true] at h
      obtain rfl := Option.some.inj h
      exact .wake hstage hwake
    · simp only [hwake, if_false] at h
      cases h
  | _ =>
    rw [loopStep, hstage] at h
    cases h

/-- What a step of the reader can do. -/
inductive ReadMoves (s : Session ε σ) : Session ε σ → Prop
  | finish (hlines : s.lines = []) : ReadMoves s { s with reading := false }
  | broken {line : RawText} {rest : List RawText} (hlines : s.lines = line :: rest)
      (htext : line.text? = none) :
    ReadMoves s { s with lines := [], output := s.output ++ [.err brokenLine] }
  | blank {line : RawText} {rest : List RawText} {text : String} (hlines : s.lines = line :: rest)
      (htext : line.text? = some text) (hcommand : commandOn? text = none) :
    ReadMoves s { s with lines := rest }
  | accept {line : RawText} {rest : List RawText} {text command : String} {o : Outcome}
      (hlines : s.lines = line :: rest) (htext : line.text? = some text)
      (hcommand : commandOn? text = some command)
      (hreply : Request.replyTo s.engine.shortages command = .ok o) :
    ReadMoves s { s.accepted command o with lines := rest }
  | reject {line : RawText} {rest : List RawText} {text command : String} {error : FaultError}
      (hlines : s.lines = line :: rest) (htext : line.text? = some text)
      (hcommand : commandOn? text = some command)
      (hreply : Request.replyTo s.engine.shortages command = .error error) :
    ReadMoves s
      { s.rejected command with lines := rest, output := s.output ++ [.err (errorLine error)] }

theorem readMoves_of_readLine (h : v.Serves t) {line : RawText} {rest : List RawText}
    (hlines : s.lines = line :: rest) : s.ReadMoves (s.readLine v t line rest) := by
  unfold readLine
  split
  · rename_i hchars
    exact .broken hlines (by rw [RawText.text?, hchars]; rfl)
  · rename_i cs hchars
    have htext : line.text? = some (String.ofList cs) := by rw [RawText.text?, hchars]; rfl
    have htrim : Text.trim (String.ofList cs) = String.ofList (Text.trimChars cs) := by
      rw [Text.trim, String.toList_ofList]
    by_cases hempty : Text.trimChars cs = []
    · have hcommand : commandOn? (String.ofList cs) = none := by
        rw [commandOn?, htrim, hempty]
        rfl
      simp only [hempty, List.isEmpty_nil, if_true]
      exact .blank hlines htext hcommand
    · have hcommand : commandOn? (String.ofList cs) = some (String.ofList (Text.trimChars cs)) := by
        rw [commandOn?, htrim]
        simp [hempty]
      rw [if_neg (by simpa using hempty)]
      cases hreply : Request.replyTo s.engine.shortages (String.ofList (Text.trimChars cs)) with
      | ok o =>
        rw [deliver_of_ok (s := { s with lines := rest }) h hreply]
        exact .accept hlines htext hcommand hreply
      | error error =>
        rw [deliver_of_error (s := { s with lines := rest }) h hreply]
        exact .reject hlines htext hcommand hreply

/-- Whether a session differs from another in nothing that the status loop decides
by itself, and in its engine by one request at most; a reader that delivers a request
has not finished by it. -/
structure Within (s s' : Session ε σ) : Prop where
  stage_eq : s'.stage = s.stage
  running_eq : s'.running = s.running
  engine_eq : s'.engine = s.engine ∨
    s'.reading = s.reading ∧ ∃ r, s'.engine = (s.engine.execute r).1

theorem within_deliver (s : Session ε σ) (v : Surroundings) (t : Task) (command : String) :
    s.Within (s.deliver v t command).1 := by
  have hengine := Engine.attach_engine s.engine v.processes t.target command
  unfold deliver
  generalize s.engine.attach v.processes t.target command = p at hengine
  rcases p with ⟨engine, result⟩
  cases result <;> exact ⟨rfl, rfl, hengine.imp_right fun hr => ⟨rfl, hr⟩⟩

theorem within_readLine (s : Session ε σ) (v : Surroundings) (t : Task) (line : RawText)
    (rest : List RawText) : s.Within (s.readLine v t line rest) := by
  unfold readLine
  split
  · exact ⟨rfl, rfl, .inl rfl⟩
  · rename_i cs _
    by_cases hempty : (Text.trimChars cs).isEmpty = true
    · rw [if_pos hempty]
      exact ⟨rfl, rfl, .inl rfl⟩
    · rw [if_neg hempty]
      have hwithin := within_deliver { s with lines := rest } v t
        (String.ofList (Text.trimChars cs))
      generalize deliver v t { s with lines := rest } (String.ofList (Text.trimChars cs)) = p at *
      rcases p with ⟨s', result⟩
      rcases hwithin with ⟨hstage, hrunning, hengine⟩
      cases result <;> exact ⟨hstage, hrunning, hengine⟩

/-- Whatever the target is, the reader makes a step only while it reads and all
workers that it has launched have entered, and it leaves the loop alone. -/
theorem within_readStep (hstep : s.readStep v t = some s') :
    s.reading = true ∧ s.engine.launching = [] ∧ s.Within s' := by
  unfold readStep at hstep
  split at hstep
  · cases hstep
  · rename_i hready
    simp only [Bool.or_eq_true, Bool.not_eq_eq_eq_not, Bool.not_true, not_or, Bool.not_eq_false,
      List.isEmpty_iff] at hready
    refine ⟨hready.1, hready.2, ?_⟩
    split at hstep
    · obtain rfl := Option.some.inj hstep
      exact ⟨rfl, rfl, .inl rfl⟩
    · obtain rfl := Option.some.inj hstep
      exact within_readLine s v t _ _

/-- The reader makes a step only while it reads, and once all workers that it has
launched have entered. -/
theorem readMoves_of_readStep (h : v.Serves t) (hstep : s.readStep v t = some s') :
    s.reading = true ∧ s.engine.launching = [] ∧ s.ReadMoves s' := by
  obtain ⟨hreading, hlaunching, -⟩ := within_readStep hstep
  refine ⟨hreading, hlaunching, ?_⟩
  unfold readStep at hstep
  split at hstep
  · cases hstep
  · split at hstep
    · rename_i hlines
      obtain rfl := Option.some.inj hstep
      exact .finish hlines
    · rename_i hlines
      obtain rfl := Option.some.inj hstep
      exact readMoves_of_readLine h hlines

/-! ## Runs -/

theorem run_cons_eq_some_iff {m : SessionMove} {ms : List SessionMove} :
    s.run a v t (m :: ms) = some s' ↔
      ∃ s₁, s.step a v t m = some s₁ ∧ s₁.run a v t ms = some s' := by
  rw [run]
  cases s.step a v t m <;> simp

theorem run_append {ms ns : List SessionMove} :
    s.run a v t (ms ++ ns) = (s.run a v t ms).bind (·.run a v t ns) := by
  induction ms generalizing s with
  | nil => rfl
  | cons m ms ih =>
    rw [List.cons_append, run, run]
    cases s.step a v t m with
    | none => rfl
    | some s₁ => exact ih

end Session

/-- Whether a move is a signal from outside. -/
def SessionMove.isSignal : SessionMove → Bool
  | signal _ => true
  | _ => false

/-- Whether no signal from outside comes into a run. -/
def Undisturbed (moves : List SessionMove) : Prop :=
  ∀ m ∈ moves, m.isSignal = false

/-- What every step of some kind keeps is kept by a run of such steps. -/
theorem Session.run_keeps {a : Allocator ε σ} {v : Surroundings} {t : Task} {s s' : Session ε σ}
    {moves : List SessionMove} {P : Session ε σ → Prop} {Q : SessionMove → Prop}
    (hkeeps : ∀ s m s', Q m → P s → s.step a v t m = some s' → P s')
    (hmoves : ∀ m ∈ moves, Q m) (hrun : s.run a v t moves = some s') (h : P s) : P s' := by
  induction moves generalizing s with
  | nil =>
    obtain rfl : s = s' := by simpa [run] using hrun
    exact h
  | cons m ms ih =>
    obtain ⟨s₁, hstep, hrest⟩ := run_cons_eq_some_iff.1 hrun
    rcases List.forall_mem_cons.1 hmoves with ⟨hm, hms⟩
    exact ih hms hrest (hkeeps s m s₁ hm h hstep)

end ResourceFaults.Host
