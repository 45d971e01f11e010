import Mathlib
import ResourceFaults.Proofs.Engine.Requests
import ResourceFaults.Session.Basic

/-!
# Steps that start and stop nothing

Some answers of a session say that a step has neither started nor stopped a fault:
its options could not be read, its process could not be reached, or its command is
unknown.  `Session.idle_steps` says that such a step leaves the session exactly as
it was, whatever state the session is in.

`Session.play` is a course of a session in which steps come in between whatever
happens in the engine by itself, and `Session.play_insert_idle` says that an idle
step can be put anywhere into such a course, or taken out of it.
-/

namespace ResourceFaults

variable {ε σ : Type}

/-! ## Idle answers -/

/-- Whether a request was rejected before any worker was launched for it. -/
def FaultError.isIdle : FaultError → Bool
  | invalidOptions _ => true
  | spawn .. => false

/-- Whether a delivery failed before any worker was launched for it. -/
def AttachError.isIdle : AttachError → Bool
  | notFound _ | permissionDenied _ | unsupported _ | probe .. => true
  | delivery source => source.isIdle

/-- Whether an answer says that nothing was started or stopped. -/
def SessionAnswer.isIdle : SessionAnswer → Bool
  | outcome (.ignored _) => true
  | rejected e => e.isIdle
  | refused e => e.isIdle
  | _ => false

/-- An answer as it comes back from a delivery. -/
def SessionAnswer.delivered : SessionAnswer → SessionAnswer
  | rejected e => refused (.delivery e)
  | answer => answer

/-- What happens in a session: a step, or something in its engine by itself. -/
inductive SessionEvent (σ : Type) where
  | step (s : SessionStep σ)
  | tick (t : Tick)

namespace Session

variable {a : Allocator ε σ} {processes : ProcessTable} {s s' : Session ε σ}

/-- A course of a session; `none` if something in it cannot happen. -/
def play (a : Allocator ε σ) (processes : ProcessTable) (s : Session ε σ) :
    List (SessionEvent σ) → Option (Session ε σ)
  | [] => some s
  | .step step :: events => (s.perform processes step).1.play a processes events
  | .tick t :: events =>
    match s.engine.tick a t with
    | none => none
    | some engine => { s with engine }.play a processes events

/-! ## Where answers come from -/

theorem perform_dispatch {handle : Nat} (text : String) (h : handle < s.handles) :
    s.perform processes (.dispatch handle text) =
      ({ s with engine := (s.engine.dispatch text).1 }, answer (s.engine.dispatch text).2) := by
  rw [perform, if_pos h]

theorem perform_execute {handle : Nat} (r : Request) (h : handle < s.handles) :
    s.perform processes (.execute handle r) =
      ({ s with engine := (s.engine.execute r).1 }, answer (s.engine.execute r).2) := by
  rw [perform, if_pos h]

theorem perform_attach (pid : UInt32) (text : String) :
    s.perform processes (.attach pid text) =
      ({ s with engine := (s.engine.attach processes pid text).1 },
        match (s.engine.attach processes pid text).2 with
        | .ok o => .outcome o
        | .error e => .refused e) := rfl

/-- Without its handle a step is not carried out. -/
theorem perform_without_handle {step : SessionStep σ} {handle : Nat}
    (hstep : (∃ text, step = .dispatch handle text) ∨ (∃ r, step = .execute handle r))
    (h : ¬ handle < s.handles) : s.perform processes step = (s, .noHandle) := by
  rcases hstep with ⟨text, rfl⟩ | ⟨r, rfl⟩ <;> rw [perform, if_neg h]

/-- A delivery to the own process is a step at any handle, but for the name of the
fault. -/
theorem perform_attach_self {handle : Nat} (text : String) (h : handle < s.handles)
    (hprobe : processes.probe processes.self = .ok ()) :
    s.perform processes (.attach processes.self text) =
      ((s.perform processes (.dispatch handle text)).1,
        (s.perform processes (.dispatch handle text)).2.delivered) := by
  rw [perform_dispatch text h, perform_attach, Engine.attach_of_self hprobe]
  cases (s.engine.dispatch text).2 <;> rfl

theorem perform_attach_foreign {pid : UInt32} (text : String) (h : pid ≠ processes.self) :
    s.perform processes (.attach pid text) = (s, .refused (.unsupported pid)) := by
  rw [perform_attach, Engine.attach_of_foreign h]

/-! ## What an idle step does -/

theorem perform_dispatch_of_isIdle {handle : Nat} {text : String}
    (h : (s.perform processes (.dispatch handle text)).2.isIdle = true) :
    (s.perform processes (.dispatch handle text)).1 = s := by
  by_cases hhandle : handle < s.handles
  · rw [perform_dispatch text hhandle] at h ⊢
    have hengine : (s.engine.dispatch text).1 = s.engine := by
      cases hanswer : (s.engine.dispatch text).2 with
      | error error =>
        rw [hanswer] at h
        cases error with
        | invalidOptions complaint => exact Engine.dispatch_of_invalid hanswer
        | spawn kind cause => cases h
      | ok outcome =>
        rw [hanswer] at h
        cases outcome with
        | ignored command => exact Engine.dispatch_of_ignored hanswer
        | cpuStarted threads duration | memStarted plan duration | stopped => cases h
    rw [hengine]
  · rw [perform_without_handle (.inl ⟨text, rfl⟩) hhandle]

theorem perform_execute_of_isIdle {handle : Nat} {r : Request}
    (h : (s.perform processes (.execute handle r)).2.isIdle = true) :
    (s.perform processes (.execute handle r)).1 = s := by
  by_cases hhandle : handle < s.handles
  · rw [perform_execute r hhandle] at h ⊢
    have hengine : (s.engine.execute r).1 = s.engine := by
      cases hanswer : (s.engine.execute r).2 with
      | error error =>
        rw [hanswer] at h
        rw [Engine.execute_reply] at hanswer
        obtain ⟨kind, cause, rfl⟩ := Request.eq_spawn_of_reply hanswer
        cases h
      | ok outcome =>
        rw [hanswer] at h
        cases outcome with
        | ignored command => exact Engine.execute_of_ignored hanswer
        | cpuStarted threads duration | memStarted plan duration | stopped => cases h
    rw [hengine]
  · rw [perform_without_handle (.inr ⟨r, rfl⟩) hhandle]

theorem perform_attach_of_isIdle {pid : UInt32} {text : String}
    (h : (s.perform processes (.attach pid text)).2.isIdle = true) :
    (s.perform processes (.attach pid text)).1 = s := by
  have hengine : (s.engine.attach processes pid text).1 = s.engine := by
    rw [perform_attach] at h
    cases hanswer : (s.engine.attach processes pid text).2 with
    | error error =>
      rw [hanswer] at h
      refine Engine.attach_of_refused hanswer ?_
      rintro kind cause rfl
      cases h
    | ok outcome =>
      rw [hanswer] at h
      cases outcome with
      | ignored command => exact Engine.attach_of_ignored hanswer
      | cpuStarted threads duration | memStarted plan duration | stopped => cases h
  rw [perform_attach, hengine]

/-- An idle step leaves the whole session as it was. -/
theorem perform_of_isIdle {step : SessionStep σ}
    (h : (s.perform processes step).2.isIdle = true) : (s.perform processes step).1 = s := by
  cases step with
  | dispatch handle text => exact perform_dispatch_of_isIdle h
  | execute handle r => exact perform_execute_of_isIdle h
  | attach pid text => exact perform_attach_of_isIdle h
  | clone handle =>
    by_cases hhandle : handle < s.handles
    · rw [perform, if_pos hhandle] at h
      cases h
    · rw [perform, if_neg hhandle]
  | replace template => cases h

/-! ## Idle steps in a course -/

theorem play_append {before after : List (SessionEvent σ)} :
    s.play a processes (before ++ after) =
      (s.play a processes before).bind (·.play a processes after) := by
  induction before generalizing s with
  | nil => rfl
  | cons event before ih =>
    cases event with
    | step step => exact ih
    | tick t =>
      rw [List.cons_append, play, play]
      cases s.engine.tick a t with
      | none => rfl
      | some engine => exact ih

/-- A step that would be idle where a course has come to can be put in there. -/
theorem play_insert_idle {before after : List (SessionEvent σ)} {step : SessionStep σ}
    (hbefore : s.play a processes before = some s')
    (hidle : (s'.perform processes step).2.isIdle = true) :
    s.play a processes (before ++ .step step :: after) = s.play a processes (before ++ after) := by
  rw [play_append, play_append, hbefore, Option.bind_some, Option.bind_some, play,
    perform_of_isIdle hidle]

/-! ## The three doors together -/

/-- A step that starts and stops nothing changes nothing, wherever in a course of
the session it comes.  A delivery to another process is always such a step,
whatever its text.  A delivery to the own process, if that can be reached, is the
same step as a dispatch of its text; only a rejection comes back as a fault of the
delivery. -/
theorem idle_steps {events : List (SessionEvent σ)}
    (hreached : s.play a processes events = some s') :
    (∀ step, (s'.perform processes step).2.isIdle = true →
      (s'.perform processes step).1 = s' ∧
        ∀ later, s.play a processes (events ++ .step step :: later) = s'.play a processes later) ∧
    (∀ pid text, pid ≠ processes.self →
      s'.perform processes (.attach pid text) = (s', .refused (.unsupported pid))) ∧
    (∀ handle text, handle < s'.handles → processes.probe processes.self = .ok () →
      s'.perform processes (.attach processes.self text) =
        ((s'.perform processes (.dispatch handle text)).1,
          (s'.perform processes (.dispatch handle text)).2.delivered)) := by
  refine ⟨fun step hidle => ⟨perform_of_isIdle hidle, fun later => ?_⟩,
    fun pid text => perform_attach_foreign text,
    fun handle text hhandle => perform_attach_self text hhandle⟩
  rw [play_insert_idle hreached hidle, play_append, hreached, Option.bind_some]

/-- A session with one CPU worker at work, to which options arrive that are wrong
only in the last word: it stays as it is, and so it does when they are delivered. -/
theorem idle_steps_beside_worker :
    ∃ s' : Session (List JournalEntry) BudgetState,
      (Session.onBudget ⟨none, 0⟩).play .budgeted ⟨7, fun _ => .present⟩
        [.step (.execute 0 (.cpu {})), .tick (.launch 0)] = some s' ∧
      s'.engine.scene.armed = true ∧ s'.engine.scene.telemetry.cpuActive = 1 ∧
      (s'.perform ⟨7, fun _ => .present⟩ (.dispatch 0 "mem -k -d x")).2.isIdle = true ∧
      (s'.perform ⟨7, fun _ => .present⟩ (.dispatch 0 "mem -k -d x")).1 = s' ∧
      s'.perform ⟨7, fun _ => .present⟩ (.attach 8 "stop") = (s', .refused (.unsupported 8)) ∧
      (s'.perform ⟨7, fun _ => .present⟩ (.attach 7 "mem -k -d x")).1 = s' := by
  have hreached := (Option.some_get (x := (Session.onBudget ⟨none, 0⟩).play .budgeted
    ⟨7, fun _ => .present⟩ [.step (.execute 0 (.cpu {})), .tick (.launch 0)]) rfl).symm
  have hidle := (idle_steps hreached).1 (.dispatch 0 "mem -k -d x") (by decide +kernel)
  have hforeign := (idle_steps hreached).2.1 8 "stop" (by decide)
  have hsame := (idle_steps hreached).2.2 0 "mem -k -d x" (by decide) rfl
  refine ⟨_, hreached, rfl, rfl, by decide +kernel, hidle.1, hforeign, ?_⟩
  exact (congrArg Prod.fst hsame).trans hidle.1

end Session

end ResourceFaults
