import Mathlib
import ResourceFaults.Proofs.Engine.Totals

/-!
# A memory worker on its own

`MemoryWorker.Alone` are the states that a single memory worker can reach when nobody
else touches the counters.  Each look at the signal and the clock is told an answer,
so the answers are any sequence at all; around the worker time passes, and the signal
is raised and lowered.

* `Alone.keeps` is the induction over such a run.  A look has three ways to go on, and
  every other step is one of `MemoryWorker.Moves`.
* `Alone.exists_gone` says that a worker on its own is never stuck: wherever it stands
  in its loop, it can be told any number of times to go on, and after the first answer
  that tells it to stop it ends.
-/

namespace ResourceFaults

variable {ε σ : Type}

namespace MemoryWorker

variable {a : Allocator ε σ} {s₀ s s' : Scene ε} {w₀ w w' : MemoryWorker σ} {answers : List Bool}

/-- The states that a worker on its own can reach, with the answers that its looks have
been told so far. -/
inductive Alone (a : Allocator ε σ) (s₀ : Scene ε) (w₀ : MemoryWorker σ) :
    List Bool → Scene ε → MemoryWorker σ → Prop
  | start : Alone a s₀ w₀ [] s₀ w₀
  | look {answers : List Bool} {s s' : Scene ε} {w w' : MemoryWorker σ} (goesOn : Bool)
      (h : Alone a s₀ w₀ answers s w) (hstage : w.stage = .polling)
      (hstep : w.stepTold a goesOn s = some (s', w')) :
      Alone a s₀ w₀ (answers ++ [goesOn]) s' w'
  | work {answers : List Bool} {s s' : Scene ε} {w w' : MemoryWorker σ}
      (h : Alone a s₀ w₀ answers s w) (hstage : w.stage ≠ .polling)
      (hstep : w.step a s = some (s', w')) : Alone a s₀ w₀ answers s' w'
  | around {answers : List Bool} {s : Scene ε} {w : MemoryWorker σ}
      (h : Alone a s₀ w₀ answers s w) (armed : Bool) (time : Nanos) :
      Alone a s₀ w₀ answers { s with armed, now := s.now + time } w

/-! ## Induction over a run -/

/-- What a look comes to. -/
def looked (w : MemoryWorker σ) (goesOn : Bool) : MemoryWorker σ :=
  { w with
    stage := if !goesOn then .releasing else if w.isIdle then .pausing else .attempting }

theorem stepTold_of_polling {goesOn : Bool} (hstage : w.stage = .polling) :
    w.stepTold a goesOn s = some (s, w.looked goesOn) := by
  rw [stepTold, hstage]
  rfl

/-- What holds at the start, and is kept by looks, by all other steps and by what goes on
around the worker, holds in every state of a run. -/
theorem Alone.keeps {P : List Bool → Scene ε → MemoryWorker σ → Prop}
    (h : Alone a s₀ w₀ answers s w) (hstart : P [] s₀ w₀)
    (hlook : ∀ answers s w goesOn, w.stage = .polling → P answers s w →
      P (answers ++ [goesOn]) s (w.looked goesOn))
    (hwork : ∀ answers s w s' w', Alone a s₀ w₀ answers s w → w.stage ≠ .polling →
      w.Moves a s s' w' → P answers s w → P answers s' w')
    (haround : ∀ answers s w armed time, P answers s w →
      P answers { s with armed, now := s.now + time } w) : P answers s w := by
  induction h with
  | start => exact hstart
  | look goesOn _ hstage hstep ih =>
    rw [stepTold_of_polling hstage] at hstep
    obtain ⟨rfl, rfl⟩ := Prod.mk.inj (Option.some.inj hstep)
    exact hlook _ _ _ goesOn hstage ih
  | work h hstage hstep ih => exact hwork _ _ _ _ _ h hstage (step_iff.1 hstep) ih
  | around _ armed time ih => exact haround _ _ _ armed time ih

/-! ## A worker is never stuck -/

end MemoryWorker

/-- How many steps a worker is away from its next look, or from its end, at most. -/
def MemoryStage.distance : MemoryStage → Nat
  | attempting => 6
  | requesting => 5
  | granted => 4
  | retaining | refused => 3
  | pausing | releasing => 2
  | napping _ | leaving => 1
  | polling | gone => 0

namespace MemoryWorker

variable {a : Allocator ε σ} {s₀ s s' : Scene ε} {w₀ w w' : MemoryWorker σ} {answers : List Bool}

theorem isPast_looked (w : MemoryWorker σ) (goesOn : Bool) :
    (w.looked goesOn).stage.isPast = !goesOn := by
  cases goesOn <;> cases hidle : w.isIdle <;> simp [looked, hidle, MemoryStage.isPast]

/-- Every step but a look brings a worker nearer to its next look or its end, and leaves
it on its side of the loop's end. -/
theorem Moves.distance_lt (h : w.Moves a s s' w') (hstage : w.stage ≠ .polling) :
    w'.stage.distance < w.stage.distance ∧ w'.stage.isPast = w.stage.isPast := by
  cases h with
  | dismiss hpolling | goOn hpolling | idle hpolling => exact absurd hpolling hstage
  | request hs reply => cases hgranted : reply.granted <;> simp [hs, MemoryStage.distance,
      MemoryStage.isPast]
  | grant hs => cases hkeep : w.plan.keep <;> simp [hs, MemoryStage.distance, MemoryStage.isPast]
  | pause hs => by_cases hnap : w.nap s.now = 0 <;>
      simp [hs, hnap, MemoryStage.distance, MemoryStage.isPast]
  | attempt hs | retain hs | refuse hs | wake _ hs | release hs | leave hs =>
    simp [hs, MemoryStage.distance, MemoryStage.isPast]

/-- A worker that has been told to stop looks no more: all answers before the last have
told it to go on. -/
theorem Alone.answers_eq (h : Alone a s₀ w₀ answers s w) (hin : w₀.stage.isPast = false) :
    answers = List.replicate (answers.count true) true ++
      if w.stage.isPast then [false] else [] := by
  obtain ⟨n, hn⟩ : ∃ n, answers = List.replicate n true ++
      if w.stage.isPast then [false] else [] := by
    refine h.keeps (P := fun answers _ w => ∃ n, answers = List.replicate n true ++
      if w.stage.isPast then [false] else []) ⟨0, by simp [hin]⟩ ?_ ?_ ?_
    · rintro answers s w goesOn hstage ⟨n, hn⟩
      rw [isPast_looked]
      cases goesOn with
      | false => exact ⟨n, by simpa [hstage, MemoryStage.isPast] using hn⟩
      | true =>
        refine ⟨n + 1, ?_⟩
        simpa [hstage, MemoryStage.isPast, List.replicate_succ'] using hn
    · rintro answers s w s' w' - hstage hmoves ⟨n, hn⟩
      exact ⟨n, by rw [(hmoves.distance_lt hstage).2, hn]⟩
    · exact fun answers s w armed time h => h
  have hcount : answers.count true = n := by
    rw [hn]
    split <;> simp
  rw [hcount]
  exact hn

/-- A worker that has not been told to stop is in its loop. -/
theorem Alone.isPast_eq_false (h : Alone a s₀ w₀ answers s w) (hin : w₀.stage.isPast = false)
    (hnever : false ∉ answers) : w.stage.isPast = false := by
  by_contra hpast
  rw [h.answers_eq hin] at hnever
  simp [hpast] at hnever

/-- A worker that neither looks nor has ended makes a step, at the end of its nap if it
naps. -/
theorem Alone.exists_step (h : Alone a s₀ w₀ answers s w) (hpolling : w.stage ≠ .polling)
    (hgone : w.stage ≠ .gone) :
    ∃ s' w', Alone a s₀ w₀ answers s' w' ∧ w'.stage.distance < w.stage.distance ∧
      w'.stage.isPast = w.stage.isPast := by
  obtain ⟨s₁, s', w', h₁, hstep⟩ : ∃ s₁ s' w', Alone a s₀ w₀ answers s₁ w ∧
      w.step a s₁ = some (s', w') := by
    cases hstage : w.stage with
    | polling => exact absurd hstage hpolling
    | gone => exact absurd hstage hgone
    | napping wake =>
      exact ⟨_, _, _, h.around s.armed wake, step_iff.2 (.wake wake hstage (Nat.le_add_left _ _))⟩
    | attempting => exact ⟨_, _, _, h, step_iff.2 (.attempt hstage)⟩
    | requesting => exact ⟨_, _, _, h, step_iff.2 (.request hstage _ rfl)⟩
    | granted => exact ⟨_, _, _, h, step_iff.2 (.grant hstage)⟩
    | retaining => exact ⟨_, _, _, h, step_iff.2 (.retain hstage)⟩
    | refused => exact ⟨_, _, _, h, step_iff.2 (.refuse hstage)⟩
    | pausing => exact ⟨_, _, _, h, step_iff.2 (.pause hstage)⟩
    | releasing => exact ⟨_, _, _, h, step_iff.2 (.release hstage)⟩
    | leaving => exact ⟨_, _, _, h, step_iff.2 (.leave hstage)⟩
  exact ⟨s', w', h₁.work hpolling hstep, (step_iff.1 hstep).distance_lt hpolling⟩

/-- A worker comes to its next look or to its end. -/
theorem Alone.exists_stop (h : Alone a s₀ w₀ answers s w) :
    ∃ s' w', Alone a s₀ w₀ answers s' w' ∧ (w'.stage = .polling ∨ w'.stage = .gone) ∧
      w'.stage.isPast = w.stage.isPast := by
  induction hd : w.stage.distance using Nat.strong_induction_on generalizing s w with
  | h d ih =>
    by_cases hpolling : w.stage = .polling
    · exact ⟨s, w, h, .inl hpolling, rfl⟩
    by_cases hgone : w.stage = .gone
    · exact ⟨s, w, h, .inr hgone, rfl⟩
    obtain ⟨s₁, w₁, h₁, hlt, hpast⟩ := h.exists_step hpolling hgone
    obtain ⟨s', w', h', hstop, hpast'⟩ := ih _ (hd ▸ hlt) h₁ rfl
    exact ⟨s', w', h', hstop, hpast'.trans hpast⟩

/-- A worker in its loop comes to its next look. -/
theorem Alone.exists_polling (h : Alone a s₀ w₀ answers s w) (hin : w.stage.isPast = false) :
    ∃ s' w', Alone a s₀ w₀ answers s' w' ∧ w'.stage = .polling := by
  obtain ⟨s', w', h', hpolling | hgone, hpast⟩ := h.exists_stop
  · exact ⟨s', w', h', hpolling⟩
  · rw [hin, hgone] at hpast
    cases hpast

/-- A worker in its loop can be told any number of times to go on, and ends once it is
told to stop. -/
theorem Alone.exists_gone (h : Alone a s₀ w₀ answers s w) (hin : w.stage.isPast = false)
    (more : Nat) :
    ∃ s' w', Alone a s₀ w₀ (answers ++ List.replicate more true ++ [false]) s' w' ∧
      w'.stage = .gone := by
  induction more generalizing answers s w with
  | zero =>
    obtain ⟨s₁, w₁, h₁, hpolling⟩ := h.exists_polling hin
    obtain ⟨s', w', h', hlast | hgone, hpast⟩ :=
      (h₁.look false hpolling (stepTold_of_polling hpolling)).exists_stop
    · rw [hlast] at hpast
      cases hpast
    · exact ⟨s', w', by simpa using h', hgone⟩
  | succ more ih =>
    obtain ⟨s₁, w₁, h₁, hpolling⟩ := h.exists_polling hin
    have h₂ := h₁.look true hpolling (stepTold_of_polling hpolling)
    obtain ⟨s', w', h', hgone⟩ := ih h₂ (isPast_looked w₁ true)
    exact ⟨s', w', by simpa [List.replicate_succ] using h', hgone⟩

end MemoryWorker

end ResourceFaults
