import Mathlib
import ResourceFaults.Engine.Basic

/-!
# What becomes of a request

Three doors lead to an engine: `Engine.execute` takes a request, `Engine.dispatch`
a text that is read as one, and `Engine.attach` a text for some process.  The
answer at each door depends on the request, the text, the process, and on what the
next start meets (`Request.reply`).  An engine that answers that a text could not be
read or delivered, or that it has ignored a command, is left as it was; one that
answers that threads ran out has carried out a part of the start.
-/

namespace ResourceFaults

namespace Request

/-- What carrying out a request comes to as long as there are threads. -/
def outcome : Request → Outcome
  | cpu o => .cpuStarted o.threads o.duration
  | mem o => .memStarted o.memoryPlan o.duration
  | stop => .stopped
  | unrecognized command => .ignored command

/-- The error of a start that runs out of threads. -/
def refusal? (shortages : List (Option Shortage)) : Request → Option FaultError
  | cpu o =>
    (shortages.head?.join.filter (·.threads < o.threads.toNat)).map fun s => .spawn .cpu s.cause
  | mem _ => (shortages.head?.join.filter (·.threads < 1)).map fun s => .spawn .memory s.cause
  | stop | unrecognized _ => none

/-- The answer to a request. -/
def reply (shortages : List (Option Shortage)) (r : Request) : Except FaultError Outcome :=
  match r.refusal? shortages with
  | none => .ok r.outcome
  | some error => .error error

/-- What the starts after a request meet. -/
def later (shortages : List (Option Shortage)) : Request → List (Option Shortage)
  | cpu _ | mem _ => shortages.tail
  | stop | unrecognized _ => shortages

/-- The answer to a text. -/
def replyTo (shortages : List (Option Shortage)) (text : String) : Except FaultError Outcome :=
  match parse text with
  | .ok r => r.reply shortages
  | .error complaint => .error (.invalidOptions complaint)

/-- What the starts after a text meet. -/
def laterThan (shortages : List (Option Shortage)) (text : String) : List (Option Shortage) :=
  match parse text with
  | .ok r => r.later shortages
  | .error _ => shortages

/-- Without a shortage every request is carried out. -/
theorem outcome_of_reply {shortages : List (Option Shortage)} {r : Request} {o : Outcome}
    (h : r.reply shortages = .ok o) : r.outcome = o := by
  rw [reply] at h
  split at h
  · exact Except.ok.inj h
  · cases h

/-- The only thing that can go wrong with a request is that threads run out. -/
theorem eq_spawn_of_reply {shortages : List (Option Shortage)} {r : Request} {error : FaultError}
    (h : r.reply shortages = .error error) : ∃ kind cause, error = .spawn kind cause := by
  have hrefusal : r.refusal? shortages = some error := by
    rw [reply] at h
    cases hrefusal : r.refusal? shortages with
    | none => simp [hrefusal] at h
    | some error' =>
      simp only [hrefusal] at h
      rw [Except.error.inj h]
  cases r with
  | cpu o | mem o =>
    obtain ⟨s, -, rfl⟩ := Option.map_eq_some_iff.1 hrefusal
    exact ⟨_, _, rfl⟩
  | stop | unrecognized command => cases hrefusal

end Request

namespace Engine

variable {ε σ : Type} {e : Engine ε σ} {processes : ProcessTable} {pid : UInt32} {text : String}

/-! ## At the first door -/

theorem start_reply {kind : WorkerKind} {workers : List (Worker σ)} {outcome : Outcome} :
    (e.start kind workers outcome).2 =
      match (e.shortage? workers.length).map fun s => FaultError.spawn kind s.cause with
      | none => .ok outcome
      | some error => .error error := by
  rw [start]
  cases e.shortage? workers.length <;> rfl

/-- Of an engine, the answer to a request depends only on what the next start
meets. -/
theorem execute_reply (r : Request) : (e.execute r).2 = r.reply e.shortages := by
  cases r with
  | cpu o =>
    rw [execute, start_reply, List.length_replicate]
    rfl
  | mem o =>
    rw [execute, start_reply, List.length_singleton]
    rfl
  | stop => rfl
  | unrecognized command => rfl

theorem execute_shortages (r : Request) : (e.execute r).1.shortages = r.later e.shortages := by
  cases r <;> rfl

/-- A request that is ignored changes nothing. -/
theorem execute_of_ignored {r : Request} {command : String}
    (h : (e.execute r).2 = .ok (.ignored command)) : (e.execute r).1 = e := by
  cases r with
  | unrecognized command => rfl
  | cpu o | mem o =>
    rw [execute, start_reply] at h
    split at h <;> cases h
  | stop => cases h

/-! ## At the second door -/

theorem dispatch_of_ok {r : Request} (h : Request.parse text = .ok r) :
    e.dispatch text = e.execute r := by
  rw [dispatch, h]

theorem dispatch_of_error {complaint : Arguments.Complaint FaultOption}
    (h : Request.parse text = .error complaint) :
    e.dispatch text = (e, .error (.invalidOptions complaint)) := by
  rw [dispatch, h]

theorem dispatch_reply : (e.dispatch text).2 = Request.replyTo e.shortages text := by
  rw [Request.replyTo]
  cases hparse : Request.parse text with
  | error complaint => rw [dispatch_of_error hparse]
  | ok r => rw [dispatch_of_ok hparse, execute_reply]

theorem dispatch_shortages :
    (e.dispatch text).1.shortages = Request.laterThan e.shortages text := by
  rw [Request.laterThan]
  cases hparse : Request.parse text with
  | error complaint => rw [dispatch_of_error hparse]
  | ok r => rw [dispatch_of_ok hparse, execute_shortages]

/-- A text that cannot be read changes nothing. -/
theorem dispatch_of_invalid {complaint : Arguments.Complaint FaultOption}
    (h : (e.dispatch text).2 = .error (.invalidOptions complaint)) :
    (e.dispatch text).1 = e := by
  cases hparse : Request.parse text with
  | error complaint => rw [dispatch_of_error hparse]
  | ok r =>
    rw [dispatch_of_ok hparse, execute_reply] at h
    obtain ⟨kind, cause, heq⟩ := Request.eq_spawn_of_reply h
    cases heq

/-- A text whose command is ignored changes nothing. -/
theorem dispatch_of_ignored {command : String}
    (h : (e.dispatch text).2 = .ok (.ignored command)) : (e.dispatch text).1 = e := by
  cases hparse : Request.parse text with
  | error complaint => rw [dispatch_of_error hparse]
  | ok r =>
    rw [dispatch_of_ok hparse] at h ⊢
    exact execute_of_ignored h

/-! ## At the third door -/

/-- No text gets through to an engine of another process. -/
theorem attach_of_foreign (h : pid ≠ processes.self) :
    e.attach processes pid text = (e, .error (.unsupported pid)) := by
  have hnot : processes.isSelf pid = false := by simpa [ProcessTable.isSelf] using h
  rw [attach, hnot]
  rfl

theorem attach_of_unreachable {error : AttachError}
    (h : processes.probe processes.self = .error error) :
    e.attach processes processes.self text = (e, .error error) := by
  have hself : processes.isSelf processes.self = true := by simp [ProcessTable.isSelf]
  rw [attach, hself, h]
  rfl

/-- A text for the own process is read there, and what is wrong with it comes back
as a fault of the delivery. -/
theorem attach_of_self (h : processes.probe processes.self = .ok ()) :
    e.attach processes processes.self text =
      ((e.dispatch text).1, (e.dispatch text).2.mapError .delivery) := by
  have hself : processes.isSelf processes.self = true := by simp [ProcessTable.isSelf]
  rw [attach, hself, h]
  rfl

/-- The answer at the third door is settled by the first of three questions: whose
process it is, whether it can be reached, and what the text is. -/
theorem attach_cases (e : Engine ε σ) (processes : ProcessTable) (pid : UInt32) (text : String) :
    (∃ error, e.attach processes pid text = (e, .error error)) ∨
      pid = processes.self ∧ processes.probe pid = .ok () := by
  by_cases hpid : pid = processes.self
  · subst hpid
    cases hprobe : processes.probe processes.self with
    | error error => exact .inl ⟨error, attach_of_unreachable hprobe⟩
    | ok u => exact .inr ⟨rfl, rfl⟩
  · exact .inl ⟨_, attach_of_foreign hpid⟩

/-- A delivery that fails changes nothing, unless it is the start at its end that
fails. -/
theorem attach_of_refused {error : AttachError}
    (h : (e.attach processes pid text).2 = .error error)
    (hstart : ∀ kind cause, error ≠ .delivery (.spawn kind cause)) :
    (e.attach processes pid text).1 = e := by
  rcases attach_cases e processes pid text with ⟨_, heq⟩ | ⟨rfl, hprobe⟩
  · rw [heq]
  · rw [attach_of_self hprobe] at h ⊢
    cases hdispatch : (e.dispatch text).2 with
    | error fault =>
      rw [hdispatch] at h
      obtain rfl : .delivery fault = error := Except.error.inj h
      cases fault with
      | invalidOptions complaint => exact dispatch_of_invalid hdispatch
      | spawn kind cause => exact absurd rfl (hstart kind cause)
    | ok outcome =>
      rw [hdispatch] at h
      cases h

/-- A text that is delivered reaches the engine as one request, or not at all. -/
theorem attach_engine (e : Engine ε σ) (processes : ProcessTable) (pid : UInt32) (text : String) :
    (e.attach processes pid text).1 = e ∨
      ∃ r, (e.attach processes pid text).1 = (e.execute r).1 := by
  rcases attach_cases e processes pid text with ⟨_, heq⟩ | ⟨rfl, hprobe⟩
  · exact .inl (by rw [heq])
  · rw [attach_of_self hprobe]
    cases hparse : Request.parse text with
    | ok r => exact .inr ⟨r, by rw [dispatch_of_ok hparse]⟩
    | error complaint => exact .inl (by rw [dispatch_of_error hparse])

/-- A delivery whose command is ignored changes nothing. -/
theorem attach_of_ignored {command : String}
    (h : (e.attach processes pid text).2 = .ok (.ignored command)) :
    (e.attach processes pid text).1 = e := by
  rcases attach_cases e processes pid text with ⟨_, heq⟩ | ⟨rfl, hprobe⟩
  · rw [heq]
  · rw [attach_of_self hprobe] at h ⊢
    cases hdispatch : (e.dispatch text).2 with
    | error error =>
      rw [hdispatch] at h
      cases h
    | ok outcome =>
      rw [hdispatch] at h
      obtain rfl : outcome = .ignored command := Except.ok.inj h
      exact dispatch_of_ignored hdispatch

end Engine

end ResourceFaults
