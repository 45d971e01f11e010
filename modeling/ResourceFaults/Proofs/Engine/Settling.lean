import Mathlib
import ResourceFaults.Engine.Settle
import ResourceFaults.Proofs.Engine.Errand

/-!
# An engine on an errand settles

`Engine.IsAtRest` says that an engine has settled.  `Engine.settle` always ends a
sequence of ticks, and it ends it at rest if its fuel is as large as
`Engine.weight`, which every tick that it chooses brings down
(`Engine.weight_lt`).

Each worker weighs eight for each request that it owes, and a little for the
stage it is in.  The weights of the stages follow the order in which a worker
passes through them, from one request up to the next look at the signal and the
clock.
-/

namespace ResourceFaults

/-! ## Weights -/

/-- The steps that are left in a stage of a CPU worker that is to end. -/
def CpuStage.weight : CpuStage → Nat
  | working => 6
  | publishing => 5
  | announcing => 4
  | polling => 3
  | closing => 2
  | leaving => 1
  | gone => 0

/-- The steps that are left in a stage of a memory worker up to its next request,
or its end. -/
def MemoryStage.weight (now : Nanos) : MemoryStage → Nat
  | granted => 8
  | retaining | refused => 7
  | pausing => 6
  | napping wake => if wake ≤ now then 4 else 5
  | polling => 3
  | attempting | releasing => 2
  | requesting | leaving => 1
  | gone => 0

theorem CpuStage.weight_le (s : CpuStage) : s.weight ≤ 8 := by
  cases s <;> decide

theorem MemoryStage.weight_le (now : Nanos) (s : MemoryStage) : s.weight now ≤ 8 := by
  cases s with
  | napping wake =>
    show (if wake ≤ now then 4 else 5) ≤ 8
    split <;> omega
  | _ => exact Nat.le_of_ble_eq_true rfl

/-- Time that passes takes weight away, if any. -/
theorem MemoryStage.weight_antitone {now later : Nanos} (hle : now ≤ later) (s : MemoryStage) :
    s.weight later ≤ s.weight now := by
  cases s with
  | napping wake =>
    show (if wake ≤ later then 4 else 5) ≤ if wake ≤ now then 4 else 5
    by_cases hnow : wake ≤ now
    · rw [if_pos hnow, if_pos (hnow.trans hle)]
    · rw [if_neg hnow]
      split <;> decide
  | _ => exact Nat.le_refl _

namespace Worker

/-- The weight of the stage of a worker. -/
def stageWeight (now : Nanos) : Worker BudgetState → Nat
  | cpu w => w.stage.weight
  | memory w => w.stage.weight now

/-- A bound on the steps that are left to a worker until it is settled. -/
def weight (horizon now : Nanos) (w : Worker BudgetState) : Nat :=
  if w.isGone then 0 else 8 * w.debt horizon + w.stageWeight now

variable {horizon now later : Nanos} {w : Worker BudgetState}

theorem stageWeight_le (now : Nanos) (w : Worker BudgetState) : w.stageWeight now ≤ 8 := by
  cases w with
  | cpu w => exact w.stage.weight_le
  | memory w => exact w.stage.weight_le now

theorem weight_le : w.weight horizon now ≤ 8 * w.debt horizon + w.stageWeight now := by
  unfold weight
  split
  · exact Nat.zero_le _
  · exact Nat.le_refl _

theorem weight_eq (h : w.isGone = false) :
    w.weight horizon now = 8 * w.debt horizon + w.stageWeight now := by
  rw [weight, if_neg (by simp [h])]

theorem weight_antitone (hle : now ≤ later) : w.weight horizon later ≤ w.weight horizon now := by
  unfold weight
  split
  · exact Nat.le_refl _
  · refine Nat.add_le_add_left ?_ _
    cases w with
    | cpu w => exact Nat.le_refl _
    | memory w => exact w.stage.weight_antitone hle

/-- The end of a nap takes weight away. -/
theorem weight_lt_of_wake {wake : Nanos} (hwake : w.wake? = some wake) (hbefore : now < wake)
    (hlater : wake ≤ later) : w.weight horizon later < w.weight horizon now := by
  cases w with
  | cpu w => cases hwake
  | memory w =>
    have hstage : w.stage = .napping wake := by
      cases hs : w.stage <;> simp_all [wake?, MemoryWorker.wake?]
    have hthere : (memory w).isGone = false := by simp [isGone, hstage]
    rw [weight_eq hthere, weight_eq hthere, stageWeight, stageWeight, hstage, MemoryStage.weight,
      MemoryStage.weight, if_pos hlater,
      if_neg (Nat.not_le.2 hbefore)]
    omega

/-- A worker that is not settled and has no step naps. -/
theorem exists_wake {s : Scene (List JournalEntry)} (hsettled : w.isSettled s = false)
    (hstep : w.step .budgeted s = none) : ∃ wake, w.wake? = some wake ∧ s.now < wake := by
  cases w with
  | cpu w =>
    cases hs : w.stage <;>
      simp_all [step, CpuWorker.step, isSettled, CpuWorker.isSettled]
  | memory w =>
    cases hs : w.stage <;>
      simp_all [step, MemoryWorker.step, MemoryWorker.stepTold, isSettled, MemoryWorker.isSettled,
        wake?, MemoryWorker.wake?]

section Steps

variable {s s' : Scene (List JournalEntry)} {w' : Worker BudgetState}

/-- A step of a worker that is not settled takes weight from its stage, unless it
makes a request. -/
theorem Moves.stageWeight_lt (h : w.Moves .budgeted s s' w') (hsettled : w.isSettled s = false)
    (hreq : w.requesting = false) : w'.stageWeight s'.now < w.stageWeight s.now := by
  cases h with
  | @cpu w _ h =>
    cases h with
    | goOn hstage hon => simp [isSettled, CpuWorker.isSettled, hstage, hon] at hsettled
    | dismiss hstage | announce hstage | close hstage | leave hstage =>
      simp [stageWeight, hstage, CpuStage.weight]
    | work hstage | publish hstage =>
      simp only [stageWeight, hstage]
      split <;> decide
  | @memory w _ h =>
    cases h with
    | idle hstage hon hidle =>
      simp [isSettled, MemoryWorker.isSettled, hstage, hon, hidle] at hsettled
    | request hstage => simp [requesting, hstage] at hreq
    | wake until_ hstage hnow =>
      simp [stageWeight, hstage, MemoryStage.weight, hnow]
    | grant hstage =>
      simp only [stageWeight, hstage]
      split <;> simp [MemoryStage.weight]
    | pause hstage =>
      simp only [stageWeight, hstage]
      split
      · simp [MemoryStage.weight]
      · simp only [MemoryStage.weight]
        split <;> omega
    | dismiss hstage | goOn hstage | attempt hstage | retain hstage | refuse hstage
      | release hstage | leave hstage =>
      simp [stageWeight, hstage, MemoryStage.weight]

/-- A step of a worker that is not settled takes weight away. -/
theorem Moves.weight_lt (h : w.Moves .budgeted s s' w') (hminds : w.Minds horizon s)
    (hsettled : w.isSettled s = false) : w'.weight horizon s'.now < w.weight horizon s.now := by
  rw [weight_eq h.isGone_eq_false]
  apply Nat.lt_of_le_of_lt weight_le
  cases hreq : w.requesting with
  | false =>
    have hstage := h.stageWeight_lt hsettled hreq
    rw [(h.no_request hreq horizon).2.2.1]
    omega
  | true =>
    have hdebt := h.debt_eq_succ hreq hminds
    have hstage := w'.stageWeight_le s'.now
    have hone : w.stageWeight s.now = 1 := by
      obtain ⟨m, m', rfl, -, hstage, -⟩ := h.request hreq
      rw [stageWeight, hstage]
      rfl
    omega

end Steps

end Worker

/-! ## Settling -/

namespace Engine

section Ticks

variable {ε σ : Type} {a : Allocator ε σ} {e e' : Engine ε σ} {t : Tick}

/-- Whether an engine has settled. -/
def IsAtRest (e : Engine ε σ) : Prop :=
  e.launching = [] ∧ ∀ w ∈ e.workers, w.isSettled e.scene = true

/-- The tick that is chosen can be made. -/
theorem tick_isSome (h : e.nextTick? a = some t) : (e.tick a t).isSome := by
  unfold nextTick? at h
  split at h
  · rename_i hlaunching
    obtain rfl := Option.some.inj h
    cases hlist : e.launching with
    | nil => simp [hlist] at hlaunching
    | cons w ws => simp [tick, launch?, hlist]
  · split at h
    · rename_i i hfind
      obtain rfl := Option.some.inj h
      obtain ⟨hi, hbusy, -⟩ := List.findIdx?_eq_some_iff_getElem.1 hfind
      have hstep := (Bool.and_eq_true_iff.1 hbusy).2
      simp [tick, work?, List.getElem?_eq_getElem hi, hstep]
    · obtain ⟨wake, -, rfl⟩ := Option.map_eq_some_iff.1 h
      rfl

/-- Settling is a sequence of ticks. -/
theorem exists_ticks_settle (fuel : Nat) :
    ∃ ts : List Tick, e.run a (ts.map .tick) = some (e.settle a fuel) := by
  induction fuel generalizing e with
  | zero => exact ⟨[], rfl⟩
  | succ fuel ih =>
    unfold settle
    cases hnext : e.nextTick? a with
    | none => exact ⟨[], rfl⟩
    | some t =>
      cases htick : e.tick a t with
      | none => exact ⟨[], by simp [run, htick]⟩
      | some e₁ =>
        obtain ⟨ts, hts⟩ := ih (e := e₁)
        refine ⟨t :: ts, run_cons_eq_some_iff.2 ⟨e₁, htick, ?_⟩⟩
        simp only [htick]
        exact hts

end Ticks

variable {r : Errand} {e e' : Engine (List JournalEntry) BudgetState} {t : Tick}

/-- A bound on the ticks that are left until an engine has settled. -/
def weight (horizon : Nanos) (e : Engine (List JournalEntry) BudgetState) : Nat :=
  (e.launching.map fun w => w.weight horizon e.scene.now + 1).sum +
    (e.workers.map (·.weight horizon e.scene.now)).sum

/-- Where there is no tick to choose, everything has settled. -/
theorem isAtRest_of_nextTick? (h : e.nextTick? .budgeted = none) : e.IsAtRest := by
  unfold nextTick? at h
  split at h
  · cases h
  · rename_i hlaunching
    split at h
    · cases h
    · rename_i hfind
      refine ⟨by simpa using hlaunching, fun w hw => ?_⟩
      by_contra hunsettled
      have hunsettled : w.isSettled e.scene = false := by simpa using hunsettled
      have hidle := List.findIdx?_eq_none_iff.1 hfind w hw
      have hstep : w.step .budgeted e.scene = none := by
        simpa [isBusy, hunsettled] using hidle
      obtain ⟨wake, hwake, -⟩ := Worker.exists_wake hunsettled hstep
      have hmem : wake ∈ (e.workers.filter fun w => !w.isSettled e.scene).filterMap
          Worker.wake? :=
        List.mem_filterMap.2 ⟨w, List.mem_filter.2 ⟨hw, by simp [hunsettled]⟩, hwake⟩
      rw [Option.map_eq_none_iff, nextWake?, List.min?_eq_none_iff] at h
      rw [h] at hmem
      cases hmem

namespace OnErrand

variable (h : e.OnErrand r)

include h

/-- What holds on the way holds of every worker that has not ended. -/
theorem minds {w : Worker BudgetState} (hw : w ∈ e.workers) (hthere : w.isGone = false) :
    w.Minds r.horizon e.scene := by
  rw [← List.take_append_drop r.old.length e.workers, List.mem_append, h.old] at hw
  rcases hw with hw | hw
  · rw [(h.ended w hw).1] at hthere
    cases hthere
  · exact h.holds.minds w (List.mem_append_left _ hw)

/-- Every tick that is chosen takes weight away. -/
theorem weight_lt (hnext : e.nextTick? .budgeted = some t)
    (htick : e.tick .budgeted t = some e') : e'.weight r.horizon < e.weight r.horizon := by
  unfold nextTick? at hnext
  split at hnext
  · obtain rfl := Option.some.inj hnext
    obtain ⟨w, hw, rfl⟩ := launch?_eq_some_iff.1 htick
    cases hlist : e.launching with
    | nil => simp [hlist] at hw
    | cons v vs =>
      obtain rfl : v = w := by simpa [hlist] using hw
      show (vs.map fun w => w.weight r.horizon e.scene.now + 1).sum +
          ((e.workers ++ [v]).map (·.weight r.horizon e.scene.now)).sum < e.weight r.horizon
      rw [weight, hlist, List.map_cons, List.sum_cons, List.map_append, List.sum_append]
      simp only [List.map_cons, List.map_nil, List.sum_cons, List.sum_nil]
      omega
  · split at hnext
    · rename_i i hfind
      obtain rfl := Option.some.inj hnext
      obtain ⟨hi, hbusy, -⟩ := List.findIdx?_eq_some_iff_getElem.1 hfind
      obtain ⟨w, s, w', hw, hmoves, rfl⟩ := work?_eq_some_iff.1 htick
      obtain ⟨_, hget⟩ := List.getElem?_eq_some_iff.1 hw
      have hunsettled : w.isSettled e.scene = false := by
        rw [hget] at hbusy
        simpa using (Bool.and_eq_true_iff.1 hbusy).1
      have hmind := h.minds (List.mem_of_getElem? hw) hmoves.isGone_eq_false
      have hlt := hmoves.weight_lt hmind hunsettled
      obtain ⟨n, hsum, hset⟩ := sum_map_set hw (·.weight r.horizon e.scene.now)
      show (e.launching.map fun w => w.weight r.horizon s.now + 1).sum +
          ((e.workers.set i w').map (·.weight r.horizon s.now)).sum < e.weight r.horizon
      rw [weight, hsum]
      rw [hmoves.now_eq] at hlt ⊢
      rw [hset w']
      omega
    · rename_i hfind
      obtain ⟨wake, hwake, rfl⟩ := Option.map_eq_some_iff.1 hnext
      obtain rfl : e.pass (wake - e.scene.now) = e' := by simpa [Engine.tick] using htick
      obtain ⟨w, hw, hwakes⟩ := List.mem_filterMap.1 (List.min?_mem hwake)
      obtain ⟨hw, hunsettled⟩ := List.mem_filter.1 hw
      have hunsettled : w.isSettled e.scene = false := by simpa using hunsettled
      have hstep : w.step .budgeted e.scene = none := by
        simpa [isBusy, hunsettled] using List.findIdx?_eq_none_iff.1 hfind w hw
      obtain ⟨wake', hwake', hbefore⟩ := Worker.exists_wake hunsettled hstep
      obtain rfl : wake' = wake := Option.some.inj (hwake'.symm.trans hwakes)
      have hlater : e.scene.now ≤ (e.pass (wake' - e.scene.now)).scene.now :=
        Nat.le_add_right _ _
      refine Nat.add_lt_add_of_le_of_lt ?_ (List.sum_lt_sum _ _ ?_ ⟨w, hw, ?_⟩)
      · exact List.sum_le_sum fun w _ => Nat.add_le_add_right (Worker.weight_antitone hlater) 1
      · exact fun w _ => Worker.weight_antitone hlater
      · exact Worker.weight_lt_of_wake hwakes hbefore (Nat.le_of_lt_succ (by
          show wake' < e.scene.now + (wake' - e.scene.now) + 1
          rw [Nat.add_sub_cancel' hbefore.le]
          exact Nat.lt_succ_self _))

/-- With as much fuel as an engine weighs, settling brings it to rest. -/
theorem isAtRest_settle {fuel : Nat} (hfuel : e.weight r.horizon ≤ fuel)
    (hnow : (e.settle .budgeted fuel).scene.now ≤ r.horizon) :
    (e.settle .budgeted fuel).IsAtRest := by
  induction fuel generalizing e with
  | zero =>
    refine isAtRest_of_nextTick? ?_
    show e.nextTick? .budgeted = none
    by_contra hne
    obtain ⟨t, ht⟩ := Option.ne_none_iff_exists'.1 hne
    obtain ⟨e₁, htick⟩ := Option.isSome_iff_exists.1 (tick_isSome ht)
    have := h.weight_lt ht htick
    omega
  | succ fuel ih =>
    unfold settle at hnow ⊢
    cases hnext : e.nextTick? .budgeted with
    | none => exact isAtRest_of_nextTick? hnext
    | some t =>
      obtain ⟨e₁, htick⟩ := Option.isSome_iff_exists.1 (tick_isSome hnext)
      simp only [hnext, htick] at hnow ⊢
      have hlt := h.weight_lt hnext htick
      obtain ⟨ts, hts⟩ := exists_ticks_settle (a := .budgeted) (e := e₁) fuel
      exact ih (h.tick htick ((now_le_of_ticks hts).trans hnow)) (by omega) hnow

end OnErrand

end Engine

end ResourceFaults
