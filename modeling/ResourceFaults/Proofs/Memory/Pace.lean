import Mathlib
import ResourceFaults.Proofs.Engine.Runs
import ResourceFaults.Proofs.Memory.Ledger

/-!
# The pace of a memory worker

`MemoryWorker.Amid` are the courses that a memory worker can take amid anything else:
between two of its steps the signal, the counters and what lies around the allocator may
become anything, and time may pass, but it never goes back.  What the worker of an engine
does in a run of the engine is such a course (`Engine.amid_of_run`).

A course keeps a diary of the worker's own steps.  A worker is admitted to an attempt by
a look at the signal and the clock, and makes the attempt with its next step, at the same
instant or later; `MemoryWorker.admissions` are the instants of the looks, and
`Worker.attempts` counts the steps.  `MemoryWorker.Paced` is the invariant of a
course: admissions are before the deadline, with the interval between them, so there are
no more of them than intervals begin before the deadline.

Once the deadline has passed a worker is never kept waiting, and after seven steps at the
most it is out of its loop, whatever the signal does (`Amid.isPast_of_passed`).
-/

namespace ResourceFaults

variable {ε σ : Type}

/-! ## Deadlines -/

namespace Deadline

variable {start duration : Nanos}

/-- How far a deadline lies from the instant at which it was set. -/
def reach (start duration : Nanos) : Nanos :=
  (after start duration).instant - start

theorem instant_after (start duration : Nanos) :
    (after start duration).instant = start + reach start duration := by
  have hle : start ≤ (after start duration).instant := by
    rw [after]
    split
    · exact Nat.le_add_right _ _
    · split
      · exact Nat.le_add_right _ _
      · exact le_rfl
  rw [reach, Nat.add_sub_cancel' hle]

/-- A duration that the clock can hold counts as it is. -/
theorem reach_of_fits (h : start + duration ≤ Nanos.last) : reach start duration = duration := by
  rw [reach, after, if_pos h, Nat.add_sub_cancel_left]

/-- Any other counts as a hundred years, if the clock can hold these. -/
theorem reach_of_not_fits (h : Nanos.last < start + duration)
    (hfar : start + Nanos.farFuture ≤ Nanos.last) : reach start duration = Nanos.farFuture := by
  rw [reach, after, if_neg (not_le.2 h), if_pos hfar, Nat.add_sub_cancel_left]

/-- On a clock that cannot hold these either, the deadline is at once. -/
theorem reach_of_neither (h : Nanos.last < start + duration)
    (hfar : Nanos.last < start + Nanos.farFuture) : reach start duration = 0 := by
  rw [reach, after, if_neg (not_le.2 h), if_neg (not_le.2 hfar), Nat.sub_self]

theorem reach_le (start duration : Nanos) : reach start duration ≤ duration := by
  rcases le_or_gt (start + duration) Nanos.last with hfits | hfits
  · exact (reach_of_fits hfits).le
  rcases le_or_gt (start + Nanos.farFuture) Nanos.last with hfar | hfar
  · rw [reach_of_not_fits hfits hfar]
    exact Nat.le_of_lt (Nat.lt_of_add_lt_add_left (hfar.trans_lt hfits))
  · rw [reach_of_neither hfits hfar]
    exact Nat.zero_le _

end Deadline

/-! ## Instants with an interval between them -/

/-- Instants with an interval between them are no more than the intervals that begin in the
same time. -/
theorem length_mul_lt {interval start stop : ℕ} {l : List ℕ} (hinterval : 0 < interval)
    (hspaced : l.Pairwise fun b b' => b + interval ≤ b') (hstart : ∀ b ∈ l, start ≤ b)
    (hstop : ∀ b ∈ l, b < stop) : l.length * interval < stop - start + interval := by
  induction l generalizing start with
  | nil => simp [hinterval]
  | cons b l ih =>
    obtain ⟨hfirst, hrest⟩ := List.pairwise_cons.1 hspaced
    have hb := hstart b List.mem_cons_self
    have hlt := hstop b List.mem_cons_self
    have hlater := ih hrest hfirst fun b' hb' => hstop b' (List.mem_cons_of_mem b hb')
    rw [List.length_cons, Nat.succ_mul]
    rcases le_or_gt (b + interval) stop with hle | hgt
    · omega
    · -- no other instant can come before the end
      have hnil : l = [] := List.eq_nil_iff_forall_not_mem.2 fun b' hb' => by
        have hge := hfirst b' hb'
        have hlt' := hstop b' (List.mem_cons_of_mem b hb')
        omega
      rw [hnil, List.length_nil, Nat.zero_mul]
      omega

/-- A number of intervals of which the last begins in time. -/
theorem le_ceilDiv_of_mul_lt {n time interval : ℕ} (hinterval : 0 < interval)
    (h : n * interval < time + interval) : n ≤ time ⌈/⌉ interval := by
  by_contra hlt
  have hle : time ⌈/⌉ interval ≤ n - 1 := by omega
  rw [ceilDiv_le_iff_le_mul hinterval] at hle
  have hsplit : interval * (n - 1) + interval = n * interval := by
    rw [← Nat.mul_succ, Nat.mul_comm]
    congr 1
    omega
  omega

/-! ## Courses -/

namespace MemoryWorker

/-- The steps that a worker has made by itself: the instant of each, and the stage to
which it has led. -/
abbrev Diary := List (Nanos × MemoryStage)

/-- The instants of the looks that have admitted the worker to an attempt. -/
def admissions (diary : Diary) : List Nanos :=
  diary.filterMap fun step => if step.2 = .attempting then some step.1 else none

/-- The courses of a worker amid anything else, each with the diary of the worker. -/
inductive Amid (a : Allocator ε σ) (s₀ : Scene ε) (w₀ : MemoryWorker σ) :
    Diary → Scene ε → MemoryWorker σ → Prop
  | start : Amid a s₀ w₀ [] s₀ w₀
  | step {diary : Diary} {s s' : Scene ε} {w w' : MemoryWorker σ} (h : Amid a s₀ w₀ diary s w)
      (hstep : w.step a s = some (s', w')) : Amid a s₀ w₀ (diary ++ [(s.now, w'.stage)]) s' w'
  | around {diary : Diary} {s : Scene ε} {w : MemoryWorker σ} (h : Amid a s₀ w₀ diary s w)
      (s' : Scene ε) (hnow : s.now ≤ s'.now) : Amid a s₀ w₀ diary s' w

variable {a : Allocator ε σ} {s₀ s s' : Scene ε} {w₀ w w' : MemoryWorker σ} {diary : Diary}
  {plan : MemoryPlan} {deadline : Deadline}

theorem admissions_concat (diary : Diary) (now : Nanos) (stage : MemoryStage) :
    admissions (diary ++ [(now, stage)]) =
      admissions diary ++ if stage = .attempting then [now] else [] := by
  by_cases hstage : stage = .attempting <;> simp [admissions, hstage]

/-- The worker's own steps take no time. -/
theorem Moves.now_eq (h : w.Moves a s s' w') : s'.now = s.now := by
  cases h <;> rfl

theorem Moves.plan_eq (h : w.Moves a s s' w') : w'.plan = w.plan := by
  cases h <;> rfl

theorem Moves.deadline_eq (h : w.Moves a s s' w') : w'.deadline = w.deadline := by
  cases h <;> rfl

/-- A nap lasts for the interval, or up to the deadline if that is nearer. -/
theorem nap_cases (w : MemoryWorker σ) (now : Nanos) :
    w.nap now = w.plan.interval ∧ now + w.plan.interval ≤ w.deadline.instant ∨
      w.nap now = w.deadline.instant - now ∧ w.deadline.instant ≤ now + w.plan.interval := by
  rw [nap, Deadline.remaining]
  grind

/-- What holds of a worker in every course: it is admitted to its attempts from `start` on
and before the deadline, with the interval between them. -/
structure Paced (plan : MemoryPlan) (deadline : Deadline) (start : Nanos) (diary : Diary)
    (s : Scene ε) (w : MemoryWorker σ) : Prop where
  plan_eq : w.plan = plan
  deadline_eq : w.deadline = deadline
  admissions_le : ∀ b ∈ admissions diary, start ≤ b ∧ b < deadline.instant ∧ b ≤ s.now
  spaced : (admissions diary).Pairwise fun b b' => b + plan.interval ≤ b'
  attempts_eq : (admissions diary).length =
    w.summary.attempts + if w.stage = .attempting then 1 else 0
  /-- At its next look the worker has rested, or its deadline has passed. -/
  rested : w.stage = .polling →
    ∀ b ∈ admissions diary, b + plan.interval ≤ s.now ∨ deadline.instant ≤ s.now
  rests : ∀ wake, w.stage = .napping wake → wake ≤ deadline.instant ∧
    ∀ b ∈ admissions diary, b + plan.interval ≤ wake ∨ deadline.instant ≤ wake
  start_le : start ≤ s.now

namespace Paced

variable {start : Nanos}

theorem launched {state : σ} (hstart : start ≤ s.now) :
    Paced plan deadline start [] s (launched plan deadline state) where
  plan_eq := rfl
  deadline_eq := rfl
  admissions_le _ h := by cases h
  spaced := .nil
  attempts_eq := rfl
  rested _ _ h := by cases h
  rests _ h := by cases h
  start_le := hstart

theorem around (h : Paced plan deadline start diary s w) (hnow : s.now ≤ s'.now) :
    Paced plan deadline start diary s' w where
  plan_eq := h.plan_eq
  deadline_eq := h.deadline_eq
  admissions_le b hb :=
    let ⟨hge, hlt, hle⟩ := h.admissions_le b hb
    ⟨hge, hlt, hle.trans hnow⟩
  spaced := h.spaced
  attempts_eq := h.attempts_eq
  rested hstage b hb := (h.rested hstage b hb).imp hnow.trans' hnow.trans'
  rests := h.rests
  start_le := h.start_le.trans hnow

/-- A step that neither admits the worker to an attempt nor ends a rest leaves the pace as
it is. -/
theorem frame (h : Paced plan deadline start diary s w) (hmoves : w.Moves a s s' w')
    (hattempting : w'.stage ≠ .attempting)
    (hattempts : w'.summary.attempts =
      w.summary.attempts + if w.stage = .attempting then 1 else 0)
    (hrested : w'.stage = .polling →
      ∀ b ∈ admissions diary, b + plan.interval ≤ s.now ∨ deadline.instant ≤ s.now)
    (hrests : ∀ wake, w'.stage = .napping wake → wake ≤ deadline.instant ∧
      ∀ b ∈ admissions diary, b + plan.interval ≤ wake ∨ deadline.instant ≤ wake) :
    Paced plan deadline start (diary ++ [(s.now, w'.stage)]) s' w' := by
  have hadmissions : admissions (diary ++ [(s.now, w'.stage)]) = admissions diary := by
    rw [admissions_concat, if_neg hattempting, List.append_nil]
  refine ⟨?_, ?_, ?_, ?_, ?_, ?_, ?_, ?_⟩
  · rw [hmoves.plan_eq, h.plan_eq]
  · rw [hmoves.deadline_eq, h.deadline_eq]
  · rw [hadmissions, hmoves.now_eq]
    exact h.admissions_le
  · rw [hadmissions]
    exact h.spaced
  · rw [hadmissions, h.attempts_eq, hattempts, if_neg hattempting, Nat.add_zero]
  · rw [hadmissions, hmoves.now_eq]
    exact hrested
  · rw [hadmissions]
    exact hrests
  · rw [hmoves.now_eq]
    exact h.start_le

/-- A look that admits the worker to an attempt. -/
theorem admitted (h : Paced plan deadline start diary s w) (hstage : w.stage = .polling)
    (hon : s.goesOn w.deadline = true) :
    Paced plan deadline start (diary ++ [(s.now, .attempting)]) s
      { w with stage := .attempting } := by
  have hbefore : s.now < deadline.instant := by
    have hpassed := (Bool.and_eq_true_iff.1 hon).2
    simpa [Deadline.hasPassed, h.deadline_eq] using hpassed
  have hrested : ∀ b ∈ admissions diary, b + plan.interval ≤ s.now := fun b hb =>
    (h.rested hstage b hb).resolve_right (not_le.2 hbefore)
  have hadmissions : admissions (diary ++ [(s.now, .attempting)]) = admissions diary ++ [s.now] := by
    rw [admissions_concat, if_pos rfl]
  refine ⟨h.plan_eq, h.deadline_eq, ?_, ?_, ?_, nofun, nofun, h.start_le⟩
  · rw [hadmissions, List.forall_mem_append]
    exact ⟨h.admissions_le, List.forall_mem_singleton.2 ⟨h.start_le, hbefore, le_rfl⟩⟩
  · rw [hadmissions, List.pairwise_append]
    exact ⟨h.spaced, List.pairwise_singleton _ _, fun b hb =>
      List.forall_mem_singleton.2 (hrested b hb)⟩
  · rw [hadmissions, List.length_append, h.attempts_eq, hstage]
    rfl

theorem move (h : Paced plan deadline start diary s w) (hinterval : 0 < plan.interval)
    (hmoves : w.Moves a s s' w') :
    Paced plan deadline start (diary ++ [(s.now, w'.stage)]) s' w' := by
  have hmade := hmoves
  cases hmoves with
  | goOn hstage hon hidle => exact h.admitted hstage hon
  | pause hstage =>
    have hnap := w.nap_cases s.now
    rw [h.plan_eq, h.deadline_eq] at hnap
    have hadmissions := h.admissions_le
    by_cases hzero : w.nap s.now = 0
    · rw [hzero] at hmade hnap ⊢
      refine h.frame hmade nofun (by simp [hstage]) (fun _ b hb => ?_) nofun
      grind
    · rw [if_neg (by simpa using hzero)] at hmade ⊢
      refine h.frame hmade nofun (by simp [hstage]) nofun fun wake hwake => ?_
      obtain rfl := MemoryStage.napping.inj hwake
      refine ⟨by grind, fun b hb => ?_⟩
      have hb := hadmissions b hb
      grind
  | wake until_ hstage hnow =>
    refine h.frame hmade nofun (by simp [hstage]) (fun _ b hb => ?_) nofun
    exact ((h.rests until_ hstage).2 b hb).imp hnow.trans' hnow.trans'
  | request hstage reply hreply =>
    refine h.frame hmade ?_ (by simp [hstage]) ?_ ?_ <;> cases reply.granted <;> nofun
  | grant hstage =>
    refine h.frame hmade ?_ (by simp [hstage]) ?_ ?_ <;> cases w.plan.keep <;> nofun
  | attempt hstage | dismiss hstage | idle hstage | retain hstage | refuse hstage
  | release hstage | leave hstage => exact h.frame hmade nofun (by simp [hstage]) nofun nofun

/-- There are no more admissions than intervals that begin before the deadline. -/
theorem length_le (h : Paced plan deadline start diary s w) (hinterval : 0 < plan.interval) :
    (admissions diary).length ≤ (deadline.instant - start) ⌈/⌉ plan.interval :=
  le_ceilDiv_of_mul_lt hinterval <| length_mul_lt hinterval h.spaced
    (fun b hb => (h.admissions_le b hb).1) fun b hb => (h.admissions_le b hb).2.1

end Paced

theorem Amid.paced {state : σ} {start : Nanos}
    (h : Amid a s₀ (launched plan deadline state) diary s w) (hinterval : 0 < plan.interval)
    (hstart : start ≤ s₀.now) : Paced plan deadline start diary s w := by
  induction h with
  | start => exact .launched hstart
  | step _ hstep ih => exact ih.move hinterval (step_iff.1 hstep)
  | around _ s' hnow ih => exact ih.around hnow

/-! ## Once the deadline has passed -/

/-- How many steps a worker needs at most to leave its loop once its deadline has passed. -/
def stepsLeft (w : MemoryWorker σ) : Nat :=
  if w.stage.isPast then 0 else w.stage.distance + 1

theorem stepsLeft_le (w : MemoryWorker σ) : w.stepsLeft ≤ 7 := by
  rw [stepsLeft]
  cases w.stage <;> simp [MemoryStage.isPast, MemoryStage.distance]

theorem Moves.stepsLeft_le (h : w.Moves a s s' w') (hpassed : w.deadline.instant ≤ s.now) :
    w'.stepsLeft ≤ w.stepsLeft - 1 := by
  have hoff : s.goesOn w.deadline = false := by
    simp [Scene.goesOn, shouldContinue, Deadline.hasPassed, hpassed]
  by_cases hpolling : w.stage = .polling
  · cases h with
    | dismiss => simp [stepsLeft, MemoryStage.isPast]
    | goOn _ hon | idle _ hon => simp [hoff] at hon
    | attempt hstage | request hstage | grant hstage | retain hstage | refuse hstage
    | pause hstage | wake _ hstage | release hstage | leave hstage =>
      rw [hpolling] at hstage
      cases hstage
  · obtain ⟨hlt, hpast⟩ := h.distance_lt hpolling
    rw [stepsLeft, stepsLeft, hpast]
    split
    · exact le_rfl
    · omega

/-- A worker that has not ended is not kept waiting once its deadline has passed. -/
theorem Paced.isSome_step {start : Nanos} (h : Paced plan deadline start diary s w)
    (hpassed : deadline.instant ≤ s.now) (hgone : w.stage ≠ .gone) :
    (w.step a s).isSome = true := by
  cases hstage : w.stage with
  | gone => exact absurd hstage hgone
  | napping wake =>
    have hwake := (h.rests wake hstage).1.trans hpassed
    simp [step, stepTold, hstage, hwake]
  | _ => simp [step, stepTold, hstage]

theorem Amid.now_le (h : Amid a s₀ w₀ diary s w) : s₀.now ≤ s.now := by
  induction h with
  | start => exact le_rfl
  | step _ hstep ih => exact ih.trans_eq (step_iff.1 hstep).now_eq.symm
  | around _ s' hnow ih => exact ih.trans hnow

theorem Amid.deadline_eq (h : Amid a s₀ w₀ diary s w) : w.deadline = w₀.deadline := by
  induction h with
  | start => rfl
  | step _ hstep ih => rw [(step_iff.1 hstep).deadline_eq, ih]
  | around _ s' hnow ih => exact ih

/-- Only a look that says yes admits the worker to an attempt. -/
theorem Moves.goesOn_of_attempting (h : w.Moves a s s' w') (hattempting : w'.stage = .attempting) :
    s.goesOn w.deadline = true := by
  cases h with
  | goOn _ hon => exact hon
  | request _ reply => cases hgranted : reply.granted <;> simp [hgranted] at hattempting
  | grant => cases hkeep : w.plan.keep <;> simp [hkeep] at hattempting
  | pause => simp only at hattempting; split at hattempting <;> cases hattempting
  | _ => cases hattempting

/-- No worker is admitted to an attempt past its deadline. -/
theorem Amid.admissions_eq_nil (h : Amid a s₀ w₀ diary s w)
    (hpassed : w₀.deadline.instant ≤ s₀.now) : admissions diary = [] := by
  induction h with
  | start => rfl
  | around _ s' hnow ih => exact ih
  | @step diary s s' w w' h hstep ih =>
    have hnot : w'.stage ≠ .attempting := by
      intro hattempting
      have hon := (step_iff.1 hstep).goesOn_of_attempting hattempting
      have hlate : w.deadline.instant ≤ s.now := h.deadline_eq ▸ hpassed.trans h.now_le
      simp [Scene.goesOn, shouldContinue, Deadline.hasPassed, hlate] at hon
    rw [admissions_concat, if_neg hnot, ih, List.nil_append]

/-- After seven steps past its deadline a worker is out of its loop. -/
theorem Amid.isPast_of_passed (h : Amid a s₀ w₀ diary s w)
    (hpassed : w₀.deadline.instant ≤ s₀.now) (hlength : 7 ≤ diary.length) :
    w.stage.isPast = true := by
  have hleft : w.stepsLeft ≤ w₀.stepsLeft - diary.length := by
    clear hlength
    induction h with
    | start => exact le_rfl
    | step h hstep ih =>
      have hlater := (step_iff.1 hstep).stepsLeft_le
        (h.deadline_eq ▸ hpassed.trans h.now_le)
      rw [List.length_append, List.length_singleton]
      omega
    | around _ s' hnow ih => exact ih
  have hfirst := w₀.stepsLeft_le
  have hzero : w.stepsLeft = 0 := by omega
  by_contra hin
  rw [stepsLeft, if_neg hin] at hzero
  omega

end MemoryWorker

/-! ## Workers of an engine -/

namespace Engine

open MemoryWorker (Amid Diary)

variable {a : Allocator ε σ} {e e' : Engine ε σ} {w : MemoryWorker σ} {i : Nat}

/-- A worker of an engine takes a course amid whatever happens in the engine. -/
theorem amid_of_run {ms : List Move} (hw : e.workers[i]? = some (.memory w))
    (hrun : e.run a ms = some e') :
    ∃ diary w', e'.workers[i]? = some (.memory w') ∧ Amid a e.scene w diary e'.scene w' := by
  induction ms using List.reverseRecOn generalizing e' with
  | nil =>
    obtain rfl : e = e' := by simpa [run] using hrun
    exact ⟨[], w, hw, .start⟩
  | append_singleton ms m ih =>
    rw [run_append, Option.bind_eq_some_iff] at hrun
    obtain ⟨e₁, hbefore, hlast⟩ := hrun
    obtain ⟨e₂, hstep, hnil⟩ := run_cons_eq_some_iff.1 hlast
    obtain rfl : e₂ = e' := by simpa [run] using hnil
    obtain ⟨diary, w₁, hw₁, hamid⟩ := ih hbefore
    rcases step_worker hstep hw₁ with ⟨hsame, -⟩ | ⟨rfl, -⟩
    · exact ⟨diary, w₁, hsame, hamid.around _ (now_le_of_step hstep)⟩
    · obtain ⟨w₂, s, w', hw₂, hmoves, rfl⟩ := work?_eq_some_iff.1 hstep
      obtain rfl : w₂ = .memory w₁ := Option.some.inj (hw₂.symm.trans hw₁)
      have hlt : i < e₁.workers.length := (List.getElem?_eq_some_iff.1 hw₁).1
      cases hmoves with
      | memory hmoves =>
        exact ⟨_, _, by simp [hlt], hamid.step (MemoryWorker.step_iff.2 hmoves)⟩

end Engine

end ResourceFaults
