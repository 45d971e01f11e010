import Mathlib
import ResourceFaults.Proofs.Memory.Pace

/-!
# Punctual memory workers

A memory worker is punctual if its steps take no time, its naps end when they should, no
call is refused and the signal stays up.  `MemoryWorker.Punctual` are the courses of such a
worker: time passes only while it naps, and not beyond the end of the nap.

A worker that starts at the instant from which its deadline was reckoned makes its
attempts at the multiples of its interval (`MemoryWorker.OnTime`), each at the instant of
the look that admits it.  So it makes as many as there are multiples before the deadline,
and leaves its loop at the deadline.
`MemoryWorker.rate_of_worker` puts this beside what holds of a worker in any course.
-/

namespace ResourceFaults

variable {ε σ : Type}

/-- The stages from a call to the pause after it, when it is granted. -/
def MemoryStage.isBusy : MemoryStage → Bool
  | requesting | granted | retaining | pausing => true
  | _ => false

namespace MemoryWorker

/-! ## Punctual courses -/

/-- The courses of a worker whose steps take no time, whose naps end when they should, and
which is neither refused a block nor stopped. -/
inductive Punctual (a : Allocator ε σ) (s₀ : Scene ε) (w₀ : MemoryWorker σ) :
    Scene ε → MemoryWorker σ → Prop
  | start : Punctual a s₀ w₀ s₀ w₀
  | step {s s' : Scene ε} {w w' : MemoryWorker σ} (h : Punctual a s₀ w₀ s w)
      (hstep : w.step a s = some (s', w')) (harmed : s'.armed = true)
      (hgranted : w'.stage ≠ .refused) : Punctual a s₀ w₀ s' w'
  | sleep {s : Scene ε} {w : MemoryWorker σ} (h : Punctual a s₀ w₀ s w) {wake : Nanos}
      (hstage : w.stage = .napping wake) (time : Nanos) (hwake : s.now + time ≤ wake) :
      Punctual a s₀ w₀ { s with now := s.now + time } w
  | around {s : Scene ε} {w : MemoryWorker σ} (h : Punctual a s₀ w₀ s w) (s' : Scene ε)
      (harmed : s'.armed = true) (hnow : s'.now = s.now) : Punctual a s₀ w₀ s' w

variable {a : Allocator ε σ} {s₀ s s' : Scene ε} {w₀ w w' : MemoryWorker σ}
  {plan : MemoryPlan} {deadline : Deadline} {state : σ} {start : Nanos}

/-- Where a punctual worker stands at an instant: its attempts are at the multiples of
the interval, and a nap ends at the next multiple or at the end, whichever comes first. -/
inductive OnTime (interval start stop now attempts : ℕ) : MemoryStage → Prop
  | polling (hnow : now = min (start + attempts * interval) stop)
      (hlast : start + attempts * interval < stop + interval) :
      OnTime interval start stop now attempts .polling
  | attempting (hnow : now = start + attempts * interval) (hbefore : now < stop) :
      OnTime interval start stop now attempts .attempting
  | busy {stage : MemoryStage} (hbusy : stage.isBusy = true) (earlier : ℕ)
      (hattempts : attempts = earlier + 1) (hnow : now = start + earlier * interval)
      (hbefore : now < stop) : OnTime interval start stop now attempts stage
  | napping (wake : ℕ) (hnow : now ≤ wake)
      (hwake : wake = min (start + attempts * interval) stop)
      (hlast : start + attempts * interval < stop + interval) :
      OnTime interval start stop now attempts (.napping wake)
  | past {stage : MemoryStage} (hpast : stage.isPast = true) (hnow : now = stop)
      (hattempts : attempts = (stop - start) ⌈/⌉ interval) :
      OnTime interval start stop now attempts stage

/-- What holds of a punctual worker. -/
structure InTime (plan : MemoryPlan) (deadline : Deadline) (start : Nanos) (s : Scene ε)
    (w : MemoryWorker σ) : Prop where
  plan_eq : w.plan = plan
  deadline_eq : w.deadline = deadline
  armed : s.armed = true
  working : w.isIdle = false
  onTime : OnTime plan.interval start deadline.instant s.now w.summary.attempts w.stage

/-- The number of intervals that begin in some time, if that ends with the last of them. -/
theorem eq_ceilDiv {n time interval : ℕ} (hinterval : 0 < interval) (hle : time ≤ n * interval)
    (hlt : n * interval < time + interval) : n = time ⌈/⌉ interval := by
  refine le_antisymm (le_ceilDiv_of_mul_lt hinterval hlt) ?_
  rwa [ceilDiv_le_iff_le_mul hinterval, Nat.mul_comm]

namespace OnTime

variable {interval start stop now attempts : ℕ} {stage : MemoryStage}

theorem exists_earlier (h : OnTime interval start stop now attempts stage)
    (hbusy : stage.isBusy = true) :
    ∃ earlier, attempts = earlier + 1 ∧ now = start + earlier * interval ∧ now < stop := by
  cases h with
  | busy _ earlier hattempts hnow hbefore => exact ⟨earlier, hattempts, hnow, hbefore⟩
  | polling | attempting | napping => cases hbusy
  | past hpast => cases stage <;> simp_all [MemoryStage.isBusy, MemoryStage.isPast]

theorem eq_of_past (h : OnTime interval start stop now attempts stage)
    (hpast : stage.isPast = true) : now = stop ∧ attempts = (stop - start) ⌈/⌉ interval := by
  cases h with
  | past _ hnow hattempts => exact ⟨hnow, hattempts⟩
  | polling | attempting | napping => cases hpast
  | busy hbusy => cases stage <;> simp_all [MemoryStage.isBusy, MemoryStage.isPast]

theorem ne_refused (h : OnTime interval start stop now attempts stage) : stage ≠ .refused := by
  rintro rfl
  cases h with
  | busy hbusy => cases hbusy
  | past hpast => cases hpast

theorem of_polling (h : OnTime interval start stop now attempts .polling) :
    now = min (start + attempts * interval) stop ∧
      start + attempts * interval < stop + interval := by
  cases h with
  | polling hnow hlast => exact ⟨hnow, hlast⟩
  | busy hbusy => cases hbusy
  | past hpast => cases hpast

theorem of_attempting (h : OnTime interval start stop now attempts .attempting) :
    now = start + attempts * interval ∧ now < stop := by
  cases h with
  | attempting hnow hbefore => exact ⟨hnow, hbefore⟩
  | busy hbusy => cases hbusy
  | past hpast => cases hpast

theorem of_napping {wake : ℕ} (h : OnTime interval start stop now attempts (.napping wake)) :
    now ≤ wake ∧ wake = min (start + attempts * interval) stop ∧
      start + attempts * interval < stop + interval := by
  cases h with
  | napping _ hnow hwake hlast => exact ⟨hnow, hwake, hlast⟩
  | busy hbusy => cases hbusy
  | past hpast => cases hpast

/-- A look that says yes comes before the end, at the next multiple of the interval. -/
theorem begin (h : OnTime interval start stop now attempts .polling) (hbefore : now < stop) :
    OnTime interval start stop now attempts .attempting := by
  obtain ⟨hnow, -⟩ := h.of_polling
  exact .attempting (by omega) hbefore

/-- The attempt that begins is one of those that begin before the end. -/
theorem attempts_lt (h : OnTime interval start stop now attempts .attempting)
    (hinterval : 0 < interval) : attempts < (stop - start) ⌈/⌉ interval := by
  obtain ⟨hnow, hbefore⟩ := h.of_attempting
  refine le_ceilDiv_of_mul_lt hinterval ?_
  rw [Nat.succ_mul]
  omega

/-- A look that says no comes at the end. -/
theorem finish (h : OnTime interval start stop now attempts .polling) (hinterval : 0 < interval)
    (hstart : start ≤ stop) (hpassed : stop ≤ now) :
    OnTime interval start stop now attempts .releasing := by
  obtain ⟨hnow, hlast⟩ := h.of_polling
  exact .past rfl (by omega) (eq_ceilDiv hinterval (by omega) (by omega))

/-- A nap lasts up to the next multiple of the interval, or up to the end. -/
theorem nap (h : OnTime interval start stop now attempts .pausing) {nap : ℕ}
    (hnap : nap = interval ∧ now + interval ≤ stop ∨ nap = stop - now ∧ stop ≤ now + interval) :
    OnTime interval start stop now attempts (.napping (now + nap)) := by
  obtain ⟨earlier, rfl, hnow, hbefore⟩ := h.exists_earlier rfl
  have hnext : start + (earlier + 1) * interval = now + interval := by
    rw [hnow, Nat.succ_mul, Nat.add_assoc]
  exact .napping _ (Nat.le_add_right _ _) (by omega) (by omega)

/-- A nap that has come to its end. -/
theorem wake {until_ : ℕ} (h : OnTime interval start stop now attempts (.napping until_))
    (hwake : until_ ≤ now) : OnTime interval start stop now attempts .polling := by
  obtain ⟨hnow, hend, hlast⟩ := h.of_napping
  exact .polling (le_antisymm hnow hwake ▸ hend) hlast

end OnTime

namespace InTime

theorem launched (hstart : start ≤ deadline.instant) (harmed : s.armed = true)
    (hnow : s.now = start) (hinterval : 0 < plan.interval) :
    InTime plan deadline start s (launched plan deadline state) := by
  refine ⟨rfl, rfl, harmed, rfl, .polling ?_ ?_⟩
  · simp [MemoryWorker.launched, hnow, hstart]
  · have hlater : start < deadline.instant + plan.interval :=
      Nat.lt_of_le_of_lt hstart (Nat.lt_add_of_pos_right hinterval)
    simpa [MemoryWorker.launched] using hlater

theorem goesOn_iff (h : InTime plan deadline start s w) :
    s.goesOn w.deadline = true ↔ s.now < deadline.instant := by
  simp [Scene.goesOn, shouldContinue, Deadline.hasPassed, h.armed, h.deadline_eq]

theorem onTime_move (h : InTime plan deadline start s w) (hinterval : 0 < plan.interval)
    (hstart : start ≤ deadline.instant) (hmoves : w.Moves a s s' w')
    (hgranted : w'.stage ≠ .refused) :
    OnTime plan.interval start deadline.instant s.now w'.summary.attempts w'.stage := by
  have htime := h.onTime
  cases hmoves with
  | dismiss hstage hoff =>
    rw [hstage] at htime
    exact htime.finish hinterval hstart (not_lt.1 fun hlt => by simp [h.goesOn_iff.2 hlt] at hoff)
  | goOn hstage hon hidle =>
    rw [hstage] at htime
    exact htime.begin (h.goesOn_iff.1 hon)
  | idle hstage hon hidle =>
    rw [h.working] at hidle
    cases hidle
  | attempt hstage =>
    rw [hstage] at htime
    obtain ⟨hnow, hbefore⟩ := htime.of_attempting
    exact .busy rfl _ rfl hnow hbefore
  | request hstage reply hreply =>
    obtain ⟨earlier, hattempts, hnow, hbefore⟩ := htime.exists_earlier (by rw [hstage]; rfl)
    cases hanswer : reply.granted with
    | true => exact .busy rfl earlier hattempts hnow hbefore
    | false => simp [hanswer] at hgranted
  | grant hstage =>
    obtain ⟨earlier, hattempts, hnow, hbefore⟩ := htime.exists_earlier (by rw [hstage]; rfl)
    refine .busy ?_ earlier hattempts hnow hbefore
    cases w.plan.keep <;> rfl
  | retain hstage =>
    obtain ⟨earlier, hattempts, hnow, hbefore⟩ := htime.exists_earlier (by rw [hstage]; rfl)
    exact .busy rfl earlier hattempts hnow hbefore
  | refuse hstage => exact absurd hstage htime.ne_refused
  | pause hstage =>
    have hnap := w.nap_cases s.now
    rw [h.plan_eq, h.deadline_eq] at hnap
    rw [hstage] at htime
    obtain ⟨-, -, -, hbefore⟩ := htime.exists_earlier rfl
    have hpositive : w.nap s.now ≠ 0 := by grind
    rw [if_neg (by simpa using hpositive)]
    exact htime.nap hnap
  | wake until_ hstage hnow =>
    rw [hstage] at htime
    exact htime.wake hnow
  | release hstage | leave hstage =>
    obtain ⟨hnow, hattempts⟩ := htime.eq_of_past (by rw [hstage]; rfl)
    exact .past rfl hnow hattempts

theorem move (h : InTime plan deadline start s w) (hinterval : 0 < plan.interval)
    (hstart : start ≤ deadline.instant) (hmoves : w.Moves a s s' w') (harmed : s'.armed = true)
    (hgranted : w'.stage ≠ .refused) : InTime plan deadline start s' w' where
  plan_eq := hmoves.plan_eq.trans h.plan_eq
  deadline_eq := hmoves.deadline_eq.trans h.deadline_eq
  armed := harmed
  working := by
    cases hmoves with
    | refuse hstage => exact absurd hstage h.onTime.ne_refused
    | _ => exact h.working
  onTime := by
    rw [hmoves.now_eq]
    exact h.onTime_move hinterval hstart hmoves hgranted

/-- A nap may go on up to its end. -/
theorem sleep (h : InTime plan deadline start s w) {wake : Nanos} (hstage : w.stage = .napping wake)
    {time : Nanos} (hwake : s.now + time ≤ wake) :
    InTime plan deadline start { s with now := s.now + time } w := by
  refine ⟨h.plan_eq, h.deadline_eq, h.armed, h.working, ?_⟩
  have htime := h.onTime
  rw [hstage] at htime ⊢
  obtain ⟨-, hend, hlast⟩ := htime.of_napping
  exact .napping wake hwake hend hlast

end InTime

theorem Punctual.inTime (h : Punctual a s₀ (launched plan deadline state) s w)
    (hinterval : 0 < plan.interval) (hstart : start ≤ deadline.instant)
    (harmed : s₀.armed = true) (hnow : s₀.now = start) : InTime plan deadline start s w := by
  induction h with
  | start => exact .launched hstart harmed hnow hinterval
  | step _ hstep harmed hgranted ih =>
    exact ih.move hinterval hstart (step_iff.1 hstep) harmed hgranted
  | sleep _ hstage time hwake ih => exact ih.sleep hstage hwake
  | around _ s' harmed hnow ih =>
    exact ⟨ih.plan_eq, ih.deadline_eq, harmed, ih.working, hnow ▸ ih.onTime⟩

/-! ## A punctual worker comes to its end -/

/-- Whether no call of a punctual worker is refused or lowers the signal. -/
def Unhindered (a : Allocator ε σ) (s₀ : Scene ε) (w₀ : MemoryWorker σ) : Prop :=
  ∀ s w, Punctual a s₀ w₀ s w → w.stage = .requesting →
    (a.request s.telemetry s.environment w.allocator w.plan.blockBytes).granted = true ∧
      (a.request s.telemetry s.environment w.allocator w.plan.blockBytes).stops = false

/-- How many steps a worker is away from its end at most, if it begins `count` attempts in
all. -/
def stepsAhead (count : ℕ) (w : MemoryWorker σ) : ℕ :=
  if w.stage.isPast then w.stage.distance
  else 8 * (count - (w.summary.attempts + if w.stage = .attempting then 1 else 0)) +
    w.stage.distance + 3

theorem Moves.stepsAhead_lt (h : w.Moves a s s' w') (hpolling : w.stage ≠ .polling) (count : ℕ) :
    w'.stepsAhead count < w.stepsAhead count := by
  obtain ⟨hlt, hpast⟩ := h.distance_lt hpolling
  have hmade := (Worker.Moves.memory h).attempts_eq
  have hattempting : w'.stage ≠ .attempting := by
    simpa [Worker.attempting] using
      (Worker.Moves.memory h).attempting_eq_false (by simpa [Worker.looks] using hpolling)
  simp only [Worker.attempts, Worker.attempting, decide_eq_true_eq] at hmade
  rw [stepsAhead, stepsAhead, hpast, if_neg hattempting, hmade, Nat.add_zero]
  split
  · exact hlt
  · omega

/-- A punctual worker that has not ended makes a step, at the end of its nap if it naps. -/
theorem Punctual.exists_step (h : Punctual a s₀ w₀ s w) (htime : InTime plan deadline start s w)
    (hinterval : 0 < plan.interval) (hfree : Unhindered a s₀ w₀) (hgone : w.stage ≠ .gone) :
    ∃ s' w', Punctual a s₀ w₀ s' w' ∧
      w'.stepsAhead ((deadline.instant - start) ⌈/⌉ plan.interval) <
        w.stepsAhead ((deadline.instant - start) ⌈/⌉ plan.interval) := by
  have hown : ∀ {s₁ s' w'}, Punctual a s₀ w₀ s₁ w → w.Moves a s₁ s' w' → w.stage ≠ .polling →
      s'.armed = true → w'.stage ≠ .refused → ∃ s' w', Punctual a s₀ w₀ s' w' ∧
        w'.stepsAhead ((deadline.instant - start) ⌈/⌉ plan.interval) <
          w.stepsAhead ((deadline.instant - start) ⌈/⌉ plan.interval) :=
    fun h₁ hmoves hpolling harmed hgranted =>
      ⟨_, _, h₁.step (step_iff.2 hmoves) harmed hgranted, hmoves.stepsAhead_lt hpolling _⟩
  have harmed := htime.armed
  have honTime := htime.onTime
  cases hstage : w.stage with
  | gone => exact absurd hstage hgone
  | refused => exact absurd hstage honTime.ne_refused
  | polling =>
    rw [hstage] at honTime
    by_cases hbefore : s.now < deadline.instant
    · have hmoves : w.Moves a s _ _ := .goOn hstage (htime.goesOn_iff.2 hbefore) htime.working
      refine ⟨_, _, h.step (step_iff.2 hmoves) harmed (by simp), ?_⟩
      have hlt := (honTime.begin hbefore).attempts_lt hinterval
      simp only [stepsAhead, hstage, MemoryStage.isPast, MemoryStage.distance, if_true,
        reduceCtorEq, Bool.false_eq_true, if_false]
      omega
    · have hoff : s.goesOn w.deadline = false := by
        rw [Bool.eq_false_iff, Ne, htime.goesOn_iff]
        exact hbefore
      have hmoves : w.Moves a s _ _ := .dismiss hstage hoff
      refine ⟨_, _, h.step (step_iff.2 hmoves) harmed (by simp), ?_⟩
      simp [stepsAhead, hstage, MemoryStage.isPast, MemoryStage.distance]
  | napping wake =>
    rw [hstage] at honTime
    have hend : s.now + (wake - s.now) = wake := Nat.add_sub_cancel' honTime.of_napping.1
    exact hown (h.sleep hstage (wake - s.now) hend.le) (.wake wake hstage hend.ge)
      (by simp [hstage]) harmed (by simp)
  | requesting =>
    obtain ⟨hgranted, hstops⟩ := hfree s w h hstage
    exact hown h (.request hstage _ rfl) (by simp [hstage]) (by simp [harmed, hstops])
      (by simp [hgranted])
  | granted =>
    exact hown h (.grant hstage) (by simp [hstage]) harmed (by cases w.plan.keep <;> simp)
  | pausing =>
    exact hown h (.pause hstage) (by simp [hstage]) harmed (by simp only; split <;> simp)
  | attempting => exact hown h (.attempt hstage) (by simp [hstage]) harmed (by simp)
  | retaining => exact hown h (.retain hstage) (by simp [hstage]) harmed (by simp)
  | releasing => exact hown h (.release hstage) (by simp [hstage]) harmed (by simp)
  | leaving => exact hown h (.leave hstage) (by simp [hstage]) harmed (by simp)

/-- A punctual worker comes to its end. -/
theorem Punctual.exists_gone (h : Punctual a s₀ (MemoryWorker.launched plan deadline state) s w)
    (hinterval : 0 < plan.interval) (hstart : start ≤ deadline.instant)
    (harmed : s₀.armed = true) (hnow : s₀.now = start)
    (hfree : Unhindered a s₀ (MemoryWorker.launched plan deadline state)) :
    ∃ s' w', Punctual a s₀ (MemoryWorker.launched plan deadline state) s' w' ∧
      w'.stage = .gone := by
  induction hd : w.stepsAhead ((deadline.instant - start) ⌈/⌉ plan.interval)
    using Nat.strong_induction_on generalizing s w with
  | h d ih =>
    by_cases hgone : w.stage = .gone
    · exact ⟨s, w, h, hgone⟩
    obtain ⟨s₁, w₁, h₁, hlt⟩ :=
      h.exists_step (h.inTime hinterval hstart harmed hnow) hinterval hfree hgone
    exact ih _ (hd ▸ hlt) h₁ rfl

/-! ## The rate of a worker -/

/-- What holds of a worker in any course, if its deadline was set `duration` after
`start`. -/
structure KeepsRate (a : Allocator ε σ) (plan : MemoryPlan) (start duration : Nanos)
    (diary : Diary) (s : Scene ε) (w : MemoryWorker σ) : Prop where
  /-- It is admitted to its attempts before the deadline, with the interval between them. -/
  paced : Paced plan (Deadline.after start duration) start diary s w
  attempts_le : w.summary.attempts ≤ (admissions diary).length
  admissions_le_reach : (admissions diary).length ≤ Deadline.reach start duration ⌈/⌉ plan.interval
  admissions_le : (admissions diary).length ≤ duration ⌈/⌉ plan.interval
  /-- Once the deadline has passed, the worker is not kept waiting. -/
  isSome_step : (Deadline.after start duration).instant ≤ s.now → w.stage ≠ .gone →
    (w.step a s).isSome = true
  /-- Then it is admitted to no attempt any more, and after seven steps of its own it is out
  of its loop, whatever the signal does. -/
  passed : (Deadline.after start duration).instant ≤ s.now → ∀ later s' w',
    Amid a s w later s' w' → admissions later = [] ∧ (7 ≤ later.length → w'.stage.isPast = true)

theorem Amid.keepsRate {duration : Nanos} {diary : Diary}
    (h : Amid a s₀ (MemoryWorker.launched plan (Deadline.after start duration) state) diary s w)
    (hinterval : 0 < plan.interval) (hstart : start ≤ s₀.now) :
    KeepsRate a plan start duration diary s w := by
  have hpaced := h.paced hinterval hstart
  have hreach := hpaced.length_le hinterval
  have hmono := (gc_mul_ceilDiv hinterval).monotone_l (Deadline.reach_le start duration)
  refine ⟨hpaced, ?_, hreach, hreach.trans hmono, hpaced.isSome_step, ?_⟩
  · rw [hpaced.attempts_eq]
    exact Nat.le_add_right _ _
  · intro hpassed later s' w' hlater
    rw [← hpaced.deadline_eq] at hpassed
    exact ⟨hlater.admissions_eq_nil hpassed, hlater.isPast_of_passed hpassed⟩

/-- The rate at which a memory worker asks for blocks, whatever its allocator, and however
the signal goes.  Its deadline lies as far off as the duration says, or a hundred years
where the clock cannot hold that, unless the clock itself ends before.

An attempt begins with the look that admits the worker to it (`admissions`); it is made,
and counted, by the step after the look.  In any course the worker makes no more attempts
than it has begun, begins no more than intervals begin in the duration, none of them at
the deadline or after it, and leaves its loop once the deadline has passed; this includes
what the worker of an engine does in a run.  A punctual worker that starts at once makes
exactly as many attempts, comes to its end, and leaves its loop at the deadline. -/
theorem rate_of_worker (a : Allocator ε σ) (plan : MemoryPlan) (hinterval : 0 < plan.interval)
    (start duration : Nanos) (state : σ) (s₀ : Scene ε) (hstart : start ≤ s₀.now) :
    let deadline := Deadline.after start duration
    let w₀ := MemoryWorker.launched plan deadline state
    (deadline.instant = start + Deadline.reach start duration ∧
      (start + duration ≤ Nanos.last → Deadline.reach start duration = duration) ∧
      (Nanos.last < start + duration → start + Nanos.farFuture ≤ Nanos.last →
        Deadline.reach start duration = Nanos.farFuture) ∧
      (Nanos.last < start + duration → Nanos.last < start + Nanos.farFuture →
        Deadline.reach start duration = 0)) ∧
    (∀ diary s w, Amid a s₀ w₀ diary s w → KeepsRate a plan start duration diary s w) ∧
    (∀ (e e' : Engine ε σ) (i : ℕ) (ms : List Move),
      e.scene = s₀ → e.workers[i]? = some (.memory w₀) → e.run a ms = some e' →
        ∃ diary w, e'.workers[i]? = some (.memory w) ∧ Amid a s₀ w₀ diary e'.scene w) ∧
    (s₀.now = start → s₀.armed = true →
      (∀ s w, Punctual a s₀ w₀ s w → w.stage.isPast = true → s.now = deadline.instant ∧
        w.summary.attempts = Deadline.reach start duration ⌈/⌉ plan.interval) ∧
      (Unhindered a s₀ w₀ → ∀ s w, Punctual a s₀ w₀ s w →
        ∃ s' w', Punctual a s₀ w₀ s' w' ∧ w'.stage = .gone)) := by
  intro deadline w₀
  have hle : start ≤ deadline.instant := by
    rw [Deadline.instant_after]
    exact Nat.le_add_right _ _
  refine ⟨⟨Deadline.instant_after start duration, Deadline.reach_of_fits,
    Deadline.reach_of_not_fits, Deadline.reach_of_neither⟩,
    fun diary s w h => h.keepsRate hinterval hstart, ?_, ?_⟩
  · rintro e e' i ms rfl hw hrun
    exact Engine.amid_of_run hw hrun
  · intro hnow harmed
    exact ⟨fun s w h hpast => (h.inTime hinterval hle harmed hnow).onTime.eq_of_past hpast,
      fun hfree s w h => h.exists_gone hinterval hle harmed hnow hfree⟩

/-- In one second a worker with an interval of 300 milliseconds makes four attempts. -/
theorem rate_of_worker_in_one_second :
    let a : Allocator Unit Unit := ⟨fun _ _ _ _ => ⟨true, false, (), ()⟩⟩
    let plan : MemoryPlan := ⟨1024, Nanos.ofMillis 300, false⟩
    let s₀ : Scene Unit := { armed := true, environment := () }
    let deadline := Deadline.after 0 (Nanos.ofSeconds 1)
    ∃ s w, Punctual a s₀ (MemoryWorker.launched plan deadline ()) s w ∧ w.stage = .gone ∧
      s.now = Nanos.ofSeconds 1 ∧ w.summary.attempts = 4 := by
  intro a plan s₀ deadline
  obtain ⟨⟨hdeadline, hfits, -, -⟩, -, -, hpunctual⟩ :=
    rate_of_worker a plan (by decide) 0 (Nanos.ofSeconds 1) () s₀ le_rfl
  obtain ⟨hexact, hends⟩ := hpunctual rfl rfl
  obtain ⟨s, w, hcourse, hgone⟩ := hends (fun _ _ _ _ => ⟨rfl, rfl⟩) _ _ .start
  have hreach : Deadline.reach 0 (Nanos.ofSeconds 1) = Nanos.ofSeconds 1 := hfits (by decide)
  obtain ⟨hnow, hattempts⟩ := hexact s w hcourse (by rw [hgone]; rfl)
  rw [hdeadline, hreach, Nat.zero_add] at hnow
  have hfour : Nanos.ofSeconds 1 ⌈/⌉ plan.interval = 4 := by decide
  exact ⟨s, w, hcourse, hgone, hnow, by rw [hattempts, hreach, hfour]⟩

end MemoryWorker

end ResourceFaults
