import Mathlib
import ResourceFaults.Proofs.Memory.Budget

/-!
# Workers up to a horizon

Up to a horizon there are two sorts of worker: those that last, whose deadline
lies beyond it, and those whose deadline has passed before they look at the
clock.  `Worker.Minds` is what holds of either sort at every step, and
`Worker.Moves.minds` that a step keeps it.

A worker that lasts has a debt: the requests that are left to it.  It pays one
with each request, and nothing else changes its debt (`Worker.Moves.request`).
A worker that is settled has none (`Worker.Minds.debt_eq_zero`).
-/

namespace ResourceFaults

/-- A settled memory worker stands outside its loop body, and has not begun to let
its blocks go unless it has ended. -/
theorem MemoryWorker.stage_of_isSettled {ε σ : Type} {s : Scene ε} {w : MemoryWorker σ}
    (h : w.isSettled s = true) :
    w.stage.isOpen = false ∧ w.stage ≠ .retaining ∧ w.stage ≠ .leaving := by
  cases hs : w.stage <;> simp_all [isSettled, MemoryStage.isOpen]

namespace Worker

/-- Whether the deadline of a worker lies beyond the horizon. -/
def Lasts {σ : Type} (horizon : Nanos) (w : Worker σ) : Prop :=
  horizon < w.deadline.instant

/-- Whether a worker has made the request that lowers the signal. -/
def HasLowered : Worker BudgetState → Prop
  | cpu _ => False
  | memory w => w.hasLowered

/-- The requests that are left to a worker. -/
def debt (horizon : Nanos) : Worker BudgetState → Nat
  | cpu _ => 0
  | memory w =>
    if horizon < w.deadline.instant then w.allocator.budget.attempts - w.allocator.calls else 0

/-- A worker as it would be launched with a thread. -/
def origin : Worker BudgetState → Worker BudgetState
  | cpu w => cpu { deadline := w.deadline }
  | memory w =>
    memory
      { plan := w.plan
        deadline := w.deadline
        allocator := { budget := w.allocator.budget } }

/-- What a worker comes to in the counters that only grow. -/
def made (horizon : Nanos) : Worker BudgetState → Gauge → Nat
  | cpu _, g =>
    match g with
    | .cpuLaunched => 1
    | _ => 0
  | memory w, g =>
    match g with
    | .memLaunched => 1
    | .attempts => if horizon < w.deadline.instant then w.allocator.budget.attempts else 0
    | .successes => if horizon < w.deadline.instant then w.allocator.budget.successes else 0
    | .failures => if horizon < w.deadline.instant then w.allocator.budget.failures else 0
    | _ => 0

/-- What a worker comes to in the other counters while it is there. -/
def held (horizon : Nanos) : Worker BudgetState → Gauge → Nat
  | cpu w, g =>
    match g with
    | .cpuActive => if horizon < w.deadline.instant then 1 else 0
    | _ => 0
  | memory w, g =>
    let blocks := if w.plan.keep then w.allocator.budget.successes else 0
    match g with
    | .memActive => if horizon < w.deadline.instant then 1 else 0
    | .retainedBlocks => if horizon < w.deadline.instant then blocks else 0
    | .retainedBytes =>
      if horizon < w.deadline.instant then blocks * w.plan.blockBytes.toNat else 0
    | _ => 0

/-- A worker that has ended and has nothing left in the counters but what only
grows. -/
def IsOver (horizon : Nanos) (w : Worker BudgetState) : Prop :=
  w.isGone = true ∧ ∀ g, w.share g = w.made horizon g

/-- The size of the blocks of a worker. -/
def blockBytes {σ : Type} : Worker σ → UInt64
  | cpu _ => 0
  | memory w => w.plan.blockBytes

/-- Whether a worker has recorded an attempt and is yet to make the request. -/
def requesting {σ : Type} : Worker σ → Bool
  | cpu _ => false
  | memory w => w.stage = .requesting

/-- What holds of a worker at every step up to the horizon. -/
structure Minds {ε : Type} (horizon : Nanos) (s : Scene ε) (w : Worker BudgetState) : Prop where
  /-- A deadline lies beyond the horizon or has passed. -/
  due : w.Lasts horizon ∨ w.deadline.instant ≤ s.now
  /-- While the signal is up, a worker that lasts is in its loop and has not lowered
  the signal. -/
  heeds : s.armed = true → w.Lasts horizon → w.hasLeft = false ∧ ¬ w.HasLowered
  sound : w.Sound
  onBudget : ∀ m, w = .memory m → m.OnBudget horizon

/-! ## Steps -/

section Steps

variable {s s' : Scene (List JournalEntry)} {w w' : Worker BudgetState} {horizon : Nanos}

namespace Moves

theorem origin_eq (h : w.Moves .budgeted s s' w') : w'.origin = w.origin := by
  cases h with
  | cpu h => cases h <;> rfl
  | memory h =>
    cases h
    case request reply hreply =>
      subst hreply
      rfl
    all_goals rfl

theorem requesting_eq (h : w.Moves .budgeted s s' w') : w'.requesting = w.attempting := by
  cases h with
  | cpu h => rfl
  | memory h =>
    cases h <;> simp_all [requesting, attempting]
    all_goals split <;> simp

/-- The size of the latest attempt changes with an attempt only. -/
theorem lastBlockBytes_eq (h : w.Moves .budgeted s s' w') :
    s'.telemetry.lastBlockBytes =
      if w.attempting then w.blockBytes else s.telemetry.lastBlockBytes := by
  cases h with
  | cpu h => cases h <;> rfl
  | memory h =>
    cases h <;> simp_all [attempting, blockBytes, Telemetry.record, Scene.leave, Telemetry.leave]

/-- A worker in its loop that goes on stays in its loop. -/
theorem hasLeft_eq_false (h : w.Moves .budgeted s s' w') (hin : w.hasLeft = false)
    (hgo : s.goesOn w.deadline = true) : w'.hasLeft = false := by
  cases h with
  | @cpu w _ h =>
    cases h with
    | work hstage =>
      by_cases hfull : w.pending + 1 = cpuBatch <;> simp_all [hasLeft, CpuStage.isPast]
    | publish hstage => cases hdone : w.progressed <;> simp_all [hasLeft, CpuStage.isPast]
    | _ => simp_all [hasLeft, deadline, CpuStage.isPast]
  | @memory w _ h =>
    cases h with
    | request hstage reply =>
      cases hgranted : reply.granted <;> simp_all [hasLeft, MemoryStage.isPast]
    | grant hstage => cases hkeep : w.plan.keep <;> simp_all [hasLeft, MemoryStage.isPast]
    | pause hstage => by_cases hnap : w.nap s.now = 0 <;> simp_all [hasLeft, MemoryStage.isPast]
    | _ => simp_all [hasLeft, deadline, MemoryStage.isPast]

/-- What a request does. -/
theorem request (h : w.Moves .budgeted s s' w') (hreq : w.requesting = true) :
    ∃ m m', w = .memory m ∧ w' = .memory m' ∧ m.stage = .requesting ∧
      m'.allocator = { m.allocator with calls := m.allocator.calls + 1 } ∧
      s'.armed = (s.armed && !(m.allocator.calls + 1 == m.allocator.budget.stopAfter)) ∧
      s'.environment = s.environment ++ [⟨m.plan.blockBytes, s.telemetry⟩] ∧
      s'.telemetry = s.telemetry := by
  cases h with
  | cpu h => cases hreq
  | memory h =>
    cases h
    case request hstage reply hreply =>
      subst hreply
      exact ⟨_, _, rfl, rfl, hstage, rfl, rfl, rfl, rfl⟩
    all_goals simp_all [requesting]

/-- What every other step leaves alone. -/
theorem no_request (h : w.Moves .budgeted s s' w') (hreq : w.requesting = false)
    (horizon : Nanos) :
    s'.armed = s.armed ∧ s'.environment = s.environment ∧
      w'.debt horizon = w.debt horizon ∧ (w'.HasLowered ↔ w.HasLowered) := by
  cases h with
  | cpu h => cases h <;> exact ⟨rfl, rfl, rfl, Iff.rfl⟩
  | memory h =>
    cases h
    case request hstage reply hreply => simp [requesting, hstage] at hreq
    all_goals exact ⟨rfl, rfl, rfl, Iff.rfl⟩

/-- A request pays one of the debt. -/
theorem debt_eq_succ (h : w.Moves .budgeted s s' w') (hreq : w.requesting = true)
    (hminds : w.Minds horizon s) : w.debt horizon = w'.debt horizon + 1 := by
  have hdeadline := h.deadline_eq
  obtain ⟨m, m', rfl, rfl, hstage, hallocator, -⟩ := h.request hreq
  have hon := hminds.onBudget m rfl
  have hbeyond := hon.horizon_lt (by simp [hstage]) (by rw [hstage]; rfl)
  have hlt := hon.calls_lt (.inr hstage)
  have hdeadline' : m'.deadline = m.deadline := hdeadline
  rw [debt, debt, hallocator, hdeadline', if_pos hbeyond, if_pos hbeyond]
  show m.allocator.budget.attempts - m.allocator.calls =
    m.allocator.budget.attempts - (m.allocator.calls + 1) + 1
  omega

/-- Only the request that lowers the signal makes a worker one that has. -/
theorem hasLowered (h : w.Moves .budgeted s s' w') (harmed : s'.armed = true)
    (hnot : ¬ w.HasLowered) : ¬ w'.HasLowered := by
  cases hreq : w.requesting with
  | false => exact fun hlowered => hnot ((h.no_request hreq 0).2.2.2.1 hlowered)
  | true =>
    obtain ⟨m, m', rfl, rfl, -, hallocator, harmed', -⟩ := h.request hreq
    intro h
    rcases h with ⟨hpos, hle⟩
    rw [hallocator] at hpos hle
    have hne : m.allocator.calls + 1 ≠ m.allocator.budget.stopAfter := by
      intro heq
      simp [harmed', heq] at harmed
    refine hnot ⟨hpos, ?_⟩
    have hle : m.allocator.budget.stopAfter ≤ m.allocator.calls + 1 := hle
    omega

/-- A step keeps what holds of a worker up to the horizon. -/
theorem minds (h : w.Moves .budgeted s s' w') (hnow : s.now ≤ horizon)
    (hminds : w.Minds horizon s) : w'.Minds horizon s' := by
  have hlasts : w'.Lasts horizon ↔ w.Lasts horizon := by
    rw [Lasts, Lasts, h.deadline_eq]
  have hgo : s.goesOn w.deadline = true → s.armed = true ∧ w.Lasts horizon := by
    intro hgo
    obtain ⟨harmed, hnot⟩ := Bool.and_eq_true_iff.1 hgo
    refine ⟨harmed, hminds.due.resolve_right fun hpassed => ?_⟩
    simp [Deadline.hasPassed, hpassed] at hnot
  refine ⟨?_, fun harmed' hlasts' => ?_, h.sound hminds.sound, ?_⟩
  · rw [hlasts, h.deadline_eq, h.now_eq]
    exact hminds.due
  · have harmed := h.armed_of_armed harmed'
    have hbeyond := hlasts.1 hlasts'
    obtain ⟨hin, hnot⟩ := hminds.heeds harmed hbeyond
    refine ⟨h.hasLeft_eq_false hin ?_, h.hasLowered harmed' hnot⟩
    have : ¬ w.deadline.instant ≤ s.now := Nat.not_le.2 (Nat.lt_of_le_of_lt hnow hbeyond)
    simp [Scene.goesOn, shouldContinue, Deadline.hasPassed, harmed, this]
  · rintro m' rfl
    cases h with
    | @memory m _ h =>
      apply h.onBudget hminds.sound (hminds.onBudget m rfl)
      intro hon
      obtain ⟨harmed, hbeyond⟩ := hgo hon
      exact ⟨hbeyond, (hminds.heeds harmed hbeyond).2⟩

end Moves

end Steps

/-! ## Waiting and being settled -/

/-- A settled worker is not about to make a request. -/
theorem requesting_eq_false {ε σ : Type} {s : Scene ε} {w : Worker σ}
    (h : w.isSettled s = true) : w.requesting = false := by
  cases w with
  | cpu w => rfl
  | memory w =>
    have hopen := (MemoryWorker.stage_of_isSettled h).1
    cases hs : w.stage <;> simp_all [requesting, MemoryStage.isOpen]

namespace Minds

variable {ε : Type} {s s' : Scene ε} {w : Worker BudgetState} {horizon : Nanos}

/-- Time passes, and others may lower the signal. -/
theorem mono (h : w.Minds horizon s) (hnow : s.now ≤ s'.now)
    (harmed : s'.armed = true → s.armed = true) : w.Minds horizon s' where
  due := h.due.imp_right fun hpassed => hpassed.trans hnow
  heeds harmed' := h.heeds (harmed harmed')
  sound := h.sound
  onBudget := h.onBudget

/-- A worker whose deadline has passed ends. -/
theorem isGone_of_not_lasts (h : w.Minds horizon s) (hsettled : w.isSettled s = true)
    (hnot : ¬ w.Lasts horizon) : w.isGone = true := by
  have hpassed : w.deadline.instant ≤ s.now := h.due.resolve_left hnot
  have hoff : s.goesOn w.deadline = false := by
    simp [Scene.goesOn, shouldContinue, Deadline.hasPassed, hpassed]
  cases w with
  | cpu w =>
    cases hs : w.stage <;> simp_all [isSettled, CpuWorker.isSettled, isGone, deadline]
  | memory w =>
    cases hs : w.stage <;> simp_all [isSettled, MemoryWorker.isSettled, isGone, deadline]

/-- A worker that lasts is there as long as the signal is up. -/
theorem isGone_iff (h : w.Minds horizon s) (hsettled : w.isSettled s = true)
    (hlasts : w.Lasts horizon) : w.isGone = !s.armed := by
  cases harmed : s.armed with
  | true =>
    have hin := (h.heeds harmed hlasts).1
    cases w with
    | cpu w => cases hs : w.stage <;> simp_all [hasLeft, isGone, CpuStage.isPast]
    | memory w => cases hs : w.stage <;> simp_all [hasLeft, isGone, MemoryStage.isPast]
  | false =>
    have hoff : s.goesOn w.deadline = false := by simp [Scene.goesOn, shouldContinue, harmed]
    cases w with
    | cpu w =>
      cases hs : w.stage <;> simp_all [isSettled, CpuWorker.isSettled, isGone, deadline]
    | memory w =>
      cases hs : w.stage <;> simp_all [isSettled, MemoryWorker.isSettled, isGone, deadline]

/-- A worker that makes an attempt owes a request. -/
theorem debt_pos (h : w.Minds horizon s) (hattempting : w.attempting = true) :
    0 < w.debt horizon := by
  cases w with
  | cpu w => cases hattempting
  | memory w =>
    have hstage : w.stage = .attempting := by simpa [attempting] using hattempting
    have hon := h.onBudget w rfl
    have hbeyond := hon.horizon_lt (by simp [hstage]) (by rw [hstage]; rfl)
    rw [debt, if_pos hbeyond]
    exact Nat.sub_pos_of_lt (hon.calls_lt (.inl hstage))

/-- A worker that is settled while the signal is up owes nothing. -/
theorem debt_eq_zero (h : w.Minds horizon s) (hsettled : w.isSettled s = true)
    (harmed : s.armed = true) : w.debt horizon = 0 := by
  cases w with
  | cpu w => rfl
  | memory w =>
    rw [debt]
    split
    · rename_i hlasts
      have hon := h.onBudget w rfl
      have hthere := h.isGone_iff hsettled hlasts
      rw [harmed] at hthere
      have hidle : w.summary.degraded = true := by
        cases hs : w.stage <;>
          simp_all [isSettled, MemoryWorker.isSettled, isGone, MemoryWorker.isIdle]
      have hrefused := Budget.attempts_le_of_refused (hon.refused_iff.2 (.inl hidle))
      omega
    · rfl

/-- What a settled worker without debt has put into the counters. -/
theorem share_eq (h : w.Minds horizon s) (hsettled : w.isSettled s = true)
    (hdebt : w.debt horizon = 0) (g : Gauge) :
    w.share g = w.made horizon g + if w.isGone then 0 else w.held horizon g := by
  have hshort := h.isGone_of_not_lasts hsettled
  cases w with
  | cpu w =>
    by_cases hlasts : horizon < w.deadline.instant
    · cases g <;> cases hs : w.stage <;>
        simp [share, CpuWorker.share, made, held, isGone, hs, hlasts]
    · have hgone : w.stage = .gone := by simpa [isGone] using hshort hlasts
      cases g <;> simp [share, CpuWorker.share, made, isGone, hgone]
  | memory w =>
    obtain ⟨hopen, hretaining, hleaving⟩ := MemoryWorker.stage_of_isSettled hsettled
    have hon := h.onBudget w rfl
    have hsound : w.Sound := h.sound
    by_cases hlasts : horizon < w.deadline.instant
    · rw [debt, if_pos hlasts] at hdebt
      obtain ⟨hattempts, hallocated, hdegraded⟩ :=
        hon.summary_eq hsound hopen (Nat.le_of_sub_eq_zero hdebt)
      have hretained : w.stage ≠ .gone →
          w.retained = if w.plan.keep then w.allocator.budget.successes else 0 := by
        intro hgone
        cases hkeep : w.plan.keep with
        | true =>
          have hall := hon.retained_eq hkeep hleaving hgone
          rw [if_neg hretaining, hallocated] at hall
          exact hall
        | false => exact hsound.retained_of_not_keep hkeep
      by_cases hgone : w.stage = .gone
      · have hzero := hsound.retained_of_done (.inr hgone)
        cases g <;>
          simp [share, MemoryWorker.share, made, isGone, hgone, hzero, hlasts, hattempts,
            hallocated, hdegraded]
      · have hretained := hretained hgone
        cases g <;>
          simp [share, MemoryWorker.share, made, held, isGone, hgone, hretained, hlasts, hattempts,
            hallocated, hdegraded]
    · have hgone : w.stage = .gone := by simpa [isGone] using hshort hlasts
      have hzero := hsound.retained_of_done (.inr hgone)
      have hcalls := (hon.outside (Nat.not_lt.1 hlasts)).1
      have hattempts := hon.attempts_eq
      have hsum := hsound.attempts_eq
      rw [hcalls, hgone, if_neg (by simp)] at hattempts
      rw [hattempts] at hsum
      have hallocated : w.summary.allocated = 0 := by omega
      have hdegraded : w.summary.degraded = false := by
        by_contra hdeg
        rw [if_pos (by simpa using hdeg)] at hsum
        omega
      cases g <;>
        simp [share, MemoryWorker.share, made, isGone, hgone, hzero, hlasts, hattempts, hallocated,
          hdegraded]

/-- A settled worker whose signal is down has nothing left but what only grows. -/
theorem isOver (h : w.Minds horizon s) (hsettled : w.isSettled s = true)
    (hdebt : w.debt horizon = 0) (hdown : s.armed = false) : w.IsOver horizon := by
  have hgone : w.isGone = true := by
    by_cases hlasts : w.Lasts horizon
    · rw [h.isGone_iff hsettled hlasts, hdown]
      rfl
    · exact h.isGone_of_not_lasts hsettled hlasts
  refine ⟨hgone, fun g => ?_⟩
  rw [h.share_eq hsettled hdebt g, if_pos hgone, Nat.add_zero]

end Minds

end Worker

end ResourceFaults
