import Mathlib
import ResourceFaults.Proofs.Engine.Requests
import ResourceFaults.Proofs.Engine.Settling
import ResourceFaults.Proofs.Engine.Starts
import ResourceFaults.Session.Basic

/-!
# The history of a session

A session is a list of steps.  What counts of a step is the request that it gets
through to the engine, if it gets any through: its `Deed`.  `Session.perform_engine`
says what a step does to the engine in terms of its deed.  A start that runs out of
threads is a deed too, but not one that was carried out in full
(`Session.isAccepted_iff`).

`Session.Unfolds` are the courses that a session can take.  After each step the
workers enter and move in any order until the engine is at rest.
-/

namespace ResourceFaults

variable {ε σ : Type}

/-! ## Deeds -/

/-- A request that was carried out, in full or up to the worker that got no thread.
A start is kept with the deadline of its workers, and `mem` with the allocator that
its worker got. -/
inductive Deed (σ : Type) where
  | cpu (options : Options) (deadline : Deadline)
  | mem (options : Options) (deadline : Deadline) (template : σ)
  | stop
  /-- A `cpu` start that got some threads and then, at an instant, no more. -/
  | cpuShort (options : Options) (deadline : Deadline) (threads : Nat) (now : Nanos)
  /-- A `mem` start that got no thread. -/
  | memShort (options : Options) (template : σ) (now : Nanos)

namespace Deed

/-- Whether a request was carried out in full. -/
def isAccepted : Deed σ → Bool
  | cpu _ _ | mem _ _ _ | stop => true
  | cpuShort .. | memShort .. => false

/-- Whether the workers of a deed that have threads have a duration other than
zero. -/
def lasts : Deed σ → Bool
  | cpu o _ | mem o _ _ | cpuShort o .. => o.durationSecs != 0
  | stop | memShort .. => false

/-- The workers that a deed launches. -/
def workers : Deed σ → List (Worker σ)
  | cpu o deadline => List.replicate o.threads.toNat (.cpu { deadline })
  | mem o deadline template => [.memory { plan := o.memoryPlan, deadline, allocator := template }]
  | stop => []
  | cpuShort _ deadline threads now =>
    List.replicate threads (.cpu { deadline }) ++ [(Worker.cpu { deadline }).withoutThread now]
  | memShort o template now =>
    [.memory
      { plan := o.memoryPlan, deadline := ⟨now⟩, allocator := template, stage := .leaving }]

/-- The CPU workers of a deed that have threads. -/
def threads : Deed σ → Nat
  | cpu o _ => o.threads.toNat
  | cpuShort _ _ threads _ => threads
  | _ => 0

/-- The number of CPU workers that a deed launches. -/
def launches : Deed σ → Nat
  | cpu o _ => o.threads.toNat
  | cpuShort _ _ threads _ => threads + 1
  | _ => 0

/-- The number of memory workers that a deed launches. -/
def memories : Deed σ → Nat
  | mem .. | memShort .. => 1
  | _ => 0

/-- A worker that a deed launches has a thread, or has none. -/
theorem mem_workers {d : Deed σ} {w : Worker σ} (h : w ∈ d.workers) :
    (∃ deadline, w = .cpu { deadline } ∧
      ((∃ o, d = .cpu o deadline) ∨ ∃ o threads now, d = .cpuShort o deadline threads now)) ∨
    (∃ o deadline template, d = .mem o deadline template ∧
      w = .memory { plan := o.memoryPlan, deadline, allocator := template }) ∨
    (∃ o deadline threads now, d = .cpuShort o deadline threads now ∧
      w = .cpu { deadline := ⟨now⟩, stage := .leaving }) ∨
    (∃ o template now, d = .memShort o template now ∧
      w = .memory
        { plan := o.memoryPlan, deadline := ⟨now⟩, allocator := template, stage := .leaving }) := by
  cases d with
  | cpu o deadline =>
    obtain ⟨-, rfl⟩ := List.mem_replicate.1 h
    exact .inl ⟨deadline, rfl, .inl ⟨o, rfl⟩⟩
  | mem o deadline template =>
    obtain rfl := List.mem_singleton.1 h
    exact .inr (.inl ⟨o, deadline, template, rfl, rfl⟩)
  | stop => cases h
  | cpuShort o deadline threads now =>
    rcases List.mem_append.1 h with h | h
    · obtain ⟨-, rfl⟩ := List.mem_replicate.1 h
      exact .inl ⟨deadline, rfl, .inr ⟨o, threads, now, rfl⟩⟩
    · obtain rfl := List.mem_singleton.1 h
      exact .inr (.inr (.inl ⟨o, deadline, threads, now, rfl, rfl⟩))
  | memShort o template now =>
    obtain rfl := List.mem_singleton.1 h
    exact .inr (.inr (.inr ⟨o, template, now, rfl, rfl⟩))

end Deed

namespace Engine

variable {e : Engine ε σ} {r : Request} {d : Deed σ}

/-- The deed that a request is. -/
def deed? (e : Engine ε σ) : Request → Option (Deed σ)
  | .cpu o =>
    match e.shortage? o.threads.toNat with
    | none => some (.cpu o (e.deadlineOf o))
    | some s => some (.cpuShort o (e.deadlineOf o) s.threads e.scene.now)
  | .mem o =>
    match e.shortage? 1 with
    | none => some (.mem o (e.deadlineOf o) e.template)
    | some _ => some (.memShort o e.template e.scene.now)
  | .stop => some .stop
  | .unrecognized _ => none

theorem deed?_eq_some (h : e.deed? r = some d) :
    (∃ o, d = .cpu o (e.deadlineOf o)) ∨ (∃ o, d = .mem o (e.deadlineOf o) e.template) ∨
      d = .stop ∨ (∃ o threads, d = .cpuShort o (e.deadlineOf o) threads e.scene.now) ∨
      ∃ o, d = .memShort o e.template e.scene.now := by
  cases r with
  | cpu o =>
    rw [deed?] at h
    split at h
    · exact .inl ⟨o, (Option.some.inj h).symm⟩
    · exact .inr (.inr (.inr (.inl ⟨o, _, (Option.some.inj h).symm⟩)))
  | mem o =>
    rw [deed?] at h
    split at h
    · exact .inr (.inl ⟨o, (Option.some.inj h).symm⟩)
    · exact .inr (.inr (.inr (.inr ⟨o, (Option.some.inj h).symm⟩)))
  | stop => exact .inr (.inr (.inl (Option.some.inj h).symm))
  | unrecognized c => cases h

/-- A request is carried out in full exactly if it is answered with an outcome. -/
theorem isAccepted_iff (h : e.deed? r = some d) :
    d.isAccepted = true ↔ ∃ o, (e.execute r).2 = .ok o := by
  cases r with
  | cpu o =>
    rw [execute, start_reply, List.length_replicate]
    rw [deed?] at h
    cases hshort : e.shortage? o.threads.toNat <;> simp only [hshort] at h <;>
      obtain rfl := Option.some.inj h <;> simp [Deed.isAccepted]
  | mem o =>
    rw [execute, start_reply, List.length_singleton]
    rw [deed?] at h
    cases hshort : e.shortage? 1 <;> simp only [hshort] at h <;>
      obtain rfl := Option.some.inj h <;> simp [Deed.isAccepted]
  | stop =>
    obtain rfl := Option.some.inj h
    exact ⟨fun _ => ⟨.stopped, rfl⟩, fun _ => rfl⟩
  | unrecognized c => cases h

/-- What a deed does to an engine. -/
def carryOut (e : Engine ε σ) : Deed σ → Engine ε σ
  | .stop => e.disarm
  | d => e.arm d.workers

/-- A request does what its deed does. -/
theorem execute_eq (e : Engine ε σ) (r : Request) :
    (e.execute r).1 = ((e.deed? r).map e.carryOut).getD e := by
  cases r with
  | cpu o =>
    rw [execute, start, deed?, enlist, List.length_replicate]
    cases hshort : e.shortage? o.threads.toNat with
    | none => rfl
    | some s =>
      show e.arm (s.cut e.scene.now _) = _
      rw [Shortage.cut_replicate (threads_lt_of_shortage? hshort)]
      rfl
  | mem o =>
    rw [execute, start, deed?, enlist, List.length_singleton]
    cases hshort : e.shortage? 1 with
    | none => rfl
    | some s =>
      show e.arm (s.cut e.scene.now _) = _
      rw [Shortage.cut_singleton (threads_lt_of_shortage? hshort)]
      rfl
  | stop => rfl
  | unrecognized c => rfl

/-- Whether every start to come gets all its threads. -/
def HasThreads (e : Engine ε σ) : Prop :=
  ∀ shortage ∈ e.shortages, shortage = none

/-- While there are threads every request is carried out in full. -/
theorem HasThreads.isAccepted (h : e.HasThreads) (hdeed : e.deed? r = some d) :
    d.isAccepted = true := by
  have hnone : ∀ count, e.shortage? count = none := by
    intro count
    have hhead : e.shortages.head?.join = none := by
      cases hshortages : e.shortages with
      | nil => rfl
      | cons shortage rest => exact h shortage (hshortages ▸ List.mem_cons_self)
    rw [shortage?, hhead]
    rfl
  cases r with
  | cpu o | mem o =>
    rw [deed?, hnone] at hdeed
    obtain rfl := Option.some.inj hdeed
    rfl
  | stop =>
    obtain rfl := Option.some.inj hdeed
    rfl
  | unrecognized c => cases hdeed

theorem HasThreads.carryOut (h : e.HasThreads) (d : Deed σ) : (e.carryOut d).HasThreads := by
  cases d with
  | stop => exact h
  | _ => exact fun shortage hmem => h shortage (List.mem_of_mem_tail hmem)

end Engine

/-! ## Steps of a session -/

namespace Session

/-- The request that a step gets through to the engine. -/
def request? (processes : ProcessTable) (s : Session ε σ) : SessionStep σ → Option Request
  | .dispatch handle text =>
    if handle < s.handles then (Request.parse text).toOption else none
  | .execute handle request => if handle < s.handles then some request else none
  | .attach pid text =>
    if processes.isSelf pid && (processes.probe pid).isOk then (Request.parse text).toOption
    else none
  | .clone _ | .replace _ => none

/-- The deed that a step is. -/
def deed? (processes : ProcessTable) (s : Session ε σ) (step : SessionStep σ) : Option (Deed σ) :=
  (s.request? processes step).bind s.engine.deed?

/-- The allocator that new workers get from a step on. -/
def templateAfter (s : Session ε σ) : SessionStep σ → σ
  | .replace template => template
  | _ => s.engine.template

/-- The deeds of a session, as it goes by itself. -/
def deeds (a : Allocator ε σ) (processes : ProcessTable) (patience : σ → Nat) :
    Session ε σ → List (SessionStep σ) → List (Deed σ)
  | _, [] => []
  | s, step :: steps =>
    (s.deed? processes step).toList ++
      deeds a processes patience (s.step a processes patience step).1 steps

/-- The courses that a session can take: the steps, the deeds that they are, and
the session in the end. -/
inductive Unfolds (a : Allocator ε σ) (processes : ProcessTable) :
    Session ε σ → List (SessionStep σ) → List (Deed σ) → Session ε σ → Prop
  | done (s : Session ε σ) : Unfolds a processes s [] [] s
  | step {s s' : Session ε σ} {step : SessionStep σ} {steps : List (SessionStep σ)}
      {ts : List Tick} {e : Engine ε σ} {ds : List (Deed σ)}
      (hticks : (s.perform processes step).1.engine.run a (ts.map .tick) = some e)
      (hrest : e.IsAtRest)
      (hlater : Unfolds a processes { (s.perform processes step).1 with engine := e } steps ds s') :
      Unfolds a processes s (step :: steps) ((s.deed? processes step).toList ++ ds) s'

variable {processes : ProcessTable} {s : Session ε σ} {step : SessionStep σ} {r : Request}

/-- A step whose request gets through has the engine carry it out, and is answered with
the outcome if there is one. -/
theorem perform_of_request (h : s.request? processes step = some r) :
    (s.perform processes step).1.engine = (s.engine.execute r).1 ∧
      ∀ o, (s.perform processes step).2 = .outcome o ↔ (s.engine.execute r).2 = .ok o := by
  cases step with
  | dispatch handle text =>
    by_cases hhandle : handle < s.handles
    · rw [request?, if_pos hhandle] at h
      cases hparse : Request.parse text with
      | error c => simp [hparse, Except.toOption] at h
      | ok r' =>
        obtain rfl : r' = r := by simpa [hparse, Except.toOption] using h
        rw [perform, if_pos hhandle, Engine.dispatch_of_ok hparse]
        refine ⟨rfl, fun o => ?_⟩
        cases hanswer : (s.engine.execute r').2 <;> simp [hanswer, answer]
    · simp [request?, hhandle] at h
  | execute handle request =>
    by_cases hhandle : handle < s.handles
    · obtain rfl : request = r := by simpa [request?, hhandle] using h
      rw [perform, if_pos hhandle]
      refine ⟨rfl, fun o => ?_⟩
      cases hanswer : (s.engine.execute request).2 <;> simp [hanswer, answer]
    · simp [request?, hhandle] at h
  | attach pid text =>
    cases hself : processes.isSelf pid <;> cases hprobe : processes.probe pid <;>
      cases hparse : Request.parse text <;> cases hanswer : (s.engine.execute r).2 <;>
      simp_all [request?, Except.toOption, Except.isOk, Except.toBool, perform, Engine.attach,
        Engine.dispatch, Except.mapError]
  | clone handle => cases h
  | replace template => cases h

/-- Every other step leaves the engine alone, but for the allocator that new
workers get, and is answered otherwise. -/
theorem perform_of_no_request (h : s.request? processes step = none) :
    (s.perform processes step).1.engine =
        { s.engine with template := s.templateAfter step } ∧
      ∀ o, (s.perform processes step).2 ≠ .outcome o := by
  cases step with
  | dispatch handle text =>
    by_cases hhandle : handle < s.handles
    · rw [request?, if_pos hhandle] at h
      cases hparse : Request.parse text with
      | error c => simp [perform, hhandle, Engine.dispatch, hparse, answer, templateAfter]
      | ok r => simp [hparse, Except.toOption] at h
    · simp [perform, hhandle, templateAfter]
  | execute handle request =>
    by_cases hhandle : handle < s.handles
    · simp [request?, hhandle] at h
    · simp [perform, hhandle, templateAfter]
  | attach pid text =>
    cases hself : processes.isSelf pid <;> cases hprobe : processes.probe pid <;>
      cases hparse : Request.parse text <;>
      simp_all [request?, Except.toOption, Except.isOk, Except.toBool, perform, Engine.attach,
        Engine.dispatch, Except.mapError, templateAfter]
  | clone handle =>
    by_cases hhandle : handle < s.handles <;> simp [perform, hhandle, templateAfter]
  | replace template => simp [perform, templateAfter]

/-- The deeds of a session that were carried out in full are those whose step is
answered with an outcome. -/
theorem isAccepted_iff {d : Deed σ} (h : s.deed? processes step = some d) :
    d.isAccepted = true ↔ ∃ o, (s.perform processes step).2 = .outcome o := by
  obtain ⟨r, hrequest, hdeed⟩ := Option.bind_eq_some_iff.1 h
  simp only [(perform_of_request hrequest).2, Engine.isAccepted_iff hdeed]

/-- A step does what its deed does, and may replace the allocator of new workers. -/
theorem perform_engine :
    (s.perform processes step).1.engine =
      { ((s.deed? processes step).map s.engine.carryOut).getD s.engine with
        template := s.templateAfter step } := by
  rw [deed?]
  cases hrequest : s.request? processes step with
  | none => exact (perform_of_no_request hrequest).1
  | some r =>
    have htemplate : s.templateAfter step = (s.engine.execute r).1.template := by
      cases step with
      | replace template => cases hrequest
      | _ => cases r <;> rfl
    rw [(perform_of_request hrequest).1, Option.bind_some, htemplate, Engine.execute_eq]

theorem hasThreads_perform (h : s.engine.HasThreads) :
    (s.perform processes step).1.engine.HasThreads := by
  rw [perform_engine]
  cases s.deed? processes step with
  | none => exact h
  | some d => exact h.carryOut d

/-- While there are threads a session carries out in full whatever it carries out. -/
theorem Unfolds.isAccepted {a : Allocator ε σ} {s' : Session ε σ} {steps : List (SessionStep σ)}
    {ds : List (Deed σ)} (h : Unfolds a processes s steps ds s') (hthreads : s.engine.HasThreads) :
    ∀ d ∈ ds, d.isAccepted = true := by
  induction h with
  | done => exact fun d hd => absurd hd List.not_mem_nil
  | @step s s' step steps ts e ds hticks hrest hlater ih =>
    intro d hd
    rcases List.mem_append.1 hd with hd | hd
    · obtain ⟨r, -, hdeed⟩ := Option.bind_eq_some_iff.1 (Option.mem_toList.1 hd)
      exact hthreads.isAccepted hdeed
    · refine ih ?_ d hd
      rw [Engine.HasThreads, Engine.shortages_of_ticks hticks]
      exact hasThreads_perform hthreads

end Session

end ResourceFaults
