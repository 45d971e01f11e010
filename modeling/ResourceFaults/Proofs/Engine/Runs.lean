import Mathlib
import ResourceFaults.Proofs.Worker.Steps

/-!
# Runs of an engine

What one move does to an engine, and how runs are taken apart.  A request leaves
the workers that have entered alone, an entry adds a worker at the end, and a
step of a worker changes the scene and that worker only.  So a worker keeps its
number, and `workers[i]?` follows one worker through a whole run.

`Engine.Reached` are the engines that a run can reach while a condition holds at
every state on the way, and `Reached.invariant` is the induction over them.
-/

namespace ResourceFaults.Engine

variable {ε σ : Type} {a : Allocator ε σ} {e e' : Engine ε σ}

/-! ## One move -/

@[simp] theorem disarm_armed : e.disarm.scene.armed = false := rfl

/-- A request leaves the workers that have entered alone. -/
@[simp] theorem execute_workers (r : Request) : (e.execute r).1.workers = e.workers := by
  cases r <;> rfl

/-- A request leaves the counters alone. -/
@[simp] theorem execute_telemetry (r : Request) :
    (e.execute r).1.scene.telemetry = e.scene.telemetry := by
  cases r <;> rfl

/-- The worker that enters keeps its place in the list of workers from then on. -/
theorem launch?_eq_some_iff {i : Nat} :
    e.launch? i = some e' ↔
      ∃ w, e.launching[i]? = some w ∧
        { e with
          scene := e.scene.enter w.kind
          launching := e.launching.eraseIdx i
          workers := e.workers ++ [w] } = e' := by
  unfold launch?
  cases e.launching[i]? <;> simp

/-- A step of a worker changes the scene and that worker only. -/
theorem work?_eq_some_iff {i : Nat} :
    e.work? a i = some e' ↔
      ∃ w s w', e.workers[i]? = some w ∧ w.Moves a e.scene s w' ∧
        { e with scene := s, workers := e.workers.set i w' } = e' := by
  unfold work?
  cases hw : e.workers[i]? with
  | none => simp
  | some w =>
    simp only [Option.map_eq_some_iff, Prod.exists, Worker.step_iff, Option.some.injEq]
    constructor
    · intro h
      rcases h with ⟨s, w', h, rfl⟩
      exact ⟨w, s, w', rfl, h, rfl⟩
    · intro h
      rcases h with ⟨_, s, w', rfl, h, rfl⟩
      exact ⟨s, w', h, rfl⟩

/-- No tick raises the signal. -/
theorem armed_of_tick {t : Tick} (hstep : e.tick a t = some e') (harmed : e'.scene.armed = true) :
    e.scene.armed = true := by
  cases t with
  | launch i =>
    obtain ⟨w, -, rfl⟩ := launch?_eq_some_iff.1 hstep
    exact harmed
  | work i =>
    obtain ⟨w, s, w', -, hmoves, rfl⟩ := work?_eq_some_iff.1 hstep
    exact hmoves.armed_of_armed harmed
  | pass t =>
    obtain rfl : e.pass t = e' := by simpa [tick] using hstep
    exact harmed

/-- No tick goes back in time. -/
theorem now_le_of_tick {t : Tick} (hstep : e.tick a t = some e') :
    e.scene.now ≤ e'.scene.now := by
  cases t with
  | launch i =>
    obtain ⟨w, -, rfl⟩ := launch?_eq_some_iff.1 hstep
    exact Nat.le_refl _
  | work i =>
    obtain ⟨w, s, w', -, hmoves, rfl⟩ := work?_eq_some_iff.1 hstep
    exact hmoves.now_eq.ge
  | pass t =>
    obtain rfl : e.pass t = e' := by simpa [tick] using hstep
    exact Nat.le_add_right _ _

/-- Time never goes back. -/
theorem now_le_of_step {m : Move} (hstep : e.step a m = some e') :
    e.scene.now ≤ e'.scene.now := by
  cases m with
  | deliver r =>
    obtain rfl : (e.execute r).1 = e' := by simpa [step] using hstep
    cases r <;> exact Nat.le_refl _
  | tick t => exact now_le_of_tick hstep

/-- What starts meet is left alone by everything that happens by itself. -/
theorem shortages_of_tick {t : Tick} (hstep : e.tick a t = some e') :
    e'.shortages = e.shortages := by
  cases t with
  | launch i =>
    obtain ⟨w, -, rfl⟩ := launch?_eq_some_iff.1 hstep
    rfl
  | work i =>
    obtain ⟨w, s, w', -, -, rfl⟩ := work?_eq_some_iff.1 hstep
    rfl
  | pass t =>
    obtain rfl : e.pass t = e' := by simpa [tick] using hstep
    rfl

/-! ## Several moves -/

theorem run_cons_eq_some_iff {m : Move} {ms : List Move} :
    e.run a (m :: ms) = some e' ↔ ∃ e₁, e.step a m = some e₁ ∧ e₁.run a ms = some e' := by
  rw [run]
  cases e.step a m <;> simp

theorem run_append {ms ns : List Move} :
    e.run a (ms ++ ns) = (e.run a ms).bind (·.run a ns) := by
  induction ms generalizing e with
  | nil => rfl
  | cons m ms ih =>
    rw [List.cons_append, run, run]
    cases e.step a m with
    | none => rfl
    | some e₁ => exact ih

/-- No sequence of ticks raises the signal. -/
theorem armed_of_ticks {ts : List Tick} (hrun : e.run a (ts.map .tick) = some e')
    (harmed : e'.scene.armed = true) : e.scene.armed = true := by
  induction ts generalizing e with
  | nil =>
    obtain rfl : e = e' := by simpa [run] using hrun
    exact harmed
  | cons t ts ih =>
    obtain ⟨e₁, hstep, hrest⟩ := run_cons_eq_some_iff.1 hrun
    exact armed_of_tick hstep (ih hrest)

/-- No sequence of ticks goes back in time. -/
theorem now_le_of_ticks {ts : List Tick} (hrun : e.run a (ts.map .tick) = some e') :
    e.scene.now ≤ e'.scene.now := by
  induction ts generalizing e with
  | nil =>
    obtain rfl : e = e' := by simpa [run] using hrun
    exact Nat.le_refl _
  | cons t ts ih =>
    obtain ⟨e₁, hstep, hrest⟩ := run_cons_eq_some_iff.1 hrun
    exact (now_le_of_tick hstep).trans (ih hrest)

theorem shortages_of_ticks {ts : List Tick} (hrun : e.run a (ts.map .tick) = some e') :
    e'.shortages = e.shortages := by
  induction ts generalizing e with
  | nil =>
    obtain rfl : e = e' := by simpa [run] using hrun
    rfl
  | cons t ts ih =>
    obtain ⟨e₁, hstep, hrest⟩ := run_cons_eq_some_iff.1 hrun
    rw [ih hrest, shortages_of_tick hstep]

/-! ## Reachable engines -/

/-- The engines that a run from `e₀` can reach while `P` holds all the way. -/
inductive Reached (a : Allocator ε σ) (P : Engine ε σ → Prop) (e₀ : Engine ε σ) :
    Engine ε σ → Prop
  | start (h : P e₀) : Reached a P e₀ e₀
  | step {e e' : Engine ε σ} (m : Move) (hreached : Reached a P e₀ e)
      (hstep : e.step a m = some e') (h : P e') : Reached a P e₀ e'

namespace Reached

variable {P Q : Engine ε σ → Prop} {e₀ : Engine ε σ}

theorem holds (h : Reached a P e₀ e) : P e := by
  cases h with
  | start h => exact h
  | step _ _ _ h => exact h

/-- What holds at the start and is kept by every move holds all the way. -/
theorem invariant (h : Reached a P e₀ e) (hstart : Q e₀)
    (hkeep : ∀ e m e', P e → Q e → e.step a m = some e' → Q e') : Q e := by
  induction h with
  | start => exact hstart
  | step m hreached hstep _ ih => exact hkeep _ m _ hreached.holds ih hstep

end Reached

/-! ## One worker through a run -/

/-- A move leaves worker `i` where it is, or is a step of it. -/
theorem step_worker {m : Move} {i : Nat} {w : Worker σ} (h : e.step a m = some e')
    (hw : e.workers[i]? = some w) :
    e'.workers[i]? = some w ∧ m ≠ .tick (.work i) ∨
      m = .tick (.work i) ∧ ∃ s w', w.Moves a e.scene s w' ∧ e'.workers[i]? = some w' := by
  cases m with
  | deliver r =>
    obtain rfl : (e.execute r).1 = e' := by simpa [step] using h
    exact .inl ⟨by rw [execute_workers, hw], by simp⟩
  | tick t =>
    cases t with
    | launch j =>
      obtain ⟨w₁, -, rfl⟩ := launch?_eq_some_iff.1 h
      refine .inl ⟨?_, by simp⟩
      have hlt : i < e.workers.length := (List.getElem?_eq_some_iff.1 hw).1
      rw [List.getElem?_append_left hlt, hw]
    | work j =>
      obtain ⟨w₁, s, w', hw₁, hmoves, rfl⟩ := work?_eq_some_iff.1 h
      by_cases hij : j = i
      · subst hij
        obtain rfl : w₁ = w := Option.some.inj (hw₁.symm.trans hw)
        have hlt : j < e.workers.length := (List.getElem?_eq_some_iff.1 hw).1
        exact .inr ⟨rfl, s, w', hmoves, by simp [hlt]⟩
      · exact .inl ⟨by rw [List.getElem?_set_ne hij, hw], by simpa using hij⟩
    | pass t =>
      obtain rfl : e.pass t = e' := by simpa [step, tick] using h
      exact .inl ⟨hw, by simp⟩

end ResourceFaults.Engine
