import Mathlib
import ResourceFaults.Proofs.Engine.Totals

/-!
# What a budget comes to

A worker on a budget that is left alone makes `Budget.attempts` requests: up to
the first one that is refused, or to the one that lowers the signal.  The first
`Budget.successes` of them are granted.

`MemoryWorker.OnBudget` says how far such a worker has come.  It does not speak
of the signal, so it survives a signal that is raised again.  What the signal has
to do with it is in `Worker.Minds`: as long as the signal is up, the worker has
neither left its loop nor made the request that lowers it.
-/

namespace ResourceFaults

/-! ## Budgets -/

namespace Budget

variable {b : Budget} {n : Nat}

/-- Whether the request with this number, counted from one, is granted. -/
def grants (b : Budget) (n : Nat) : Bool :=
  match b.failAfter with
  | none => true
  | some limit => n ≤ limit

/-- The requests of a worker that is left alone. -/
def attempts (b : Budget) : Nat :=
  match b.failAfter with
  | none => b.stopAfter
  | some limit => if b.stopAfter = 0 then limit + 1 else min b.stopAfter (limit + 1)

/-- The requests that are granted. -/
def successes (b : Budget) : Nat :=
  match b.failAfter with
  | none => b.attempts
  | some limit => min b.attempts limit

/-- The requests that are refused. -/
def failures (b : Budget) : Nat :=
  b.attempts - b.successes

/-- Whether the last request lowers the signal. -/
def lowers (b : Budget) : Bool :=
  0 < b.stopAfter && b.stopAfter == b.attempts

/-- Whether the requests come to an end. -/
def IsBounded (b : Budget) : Prop :=
  b.failAfter.isSome ∨ 0 < b.stopAfter

instance (b : Budget) : Decidable b.IsBounded :=
  inferInstanceAs (Decidable (b.failAfter.isSome ∨ 0 < b.stopAfter))

theorem grants_zero : b.grants 0 = true := by
  unfold grants
  cases b.failAfter <;> simp

theorem attempts_le_stopAfter (h : 0 < b.stopAfter) : b.attempts ≤ b.stopAfter := by
  unfold attempts
  cases b.failAfter with
  | none => exact Nat.le_refl _
  | some limit =>
    show (if b.stopAfter = 0 then limit + 1 else min b.stopAfter (limit + 1)) ≤ b.stopAfter
    rw [if_neg (by omega)]
    exact Nat.min_le_left _ _

/-- After a refusal no request is due. -/
theorem attempts_le_of_refused (h : b.grants n = false) : b.attempts ≤ n := by
  unfold grants at h
  unfold attempts
  cases hlimit : b.failAfter with
  | none => simp [hlimit] at h
  | some limit =>
    have hlt : limit < n := by simpa [hlimit] using h
    show (if b.stopAfter = 0 then limit + 1 else min b.stopAfter (limit + 1)) ≤ n
    split <;> omega

/-- Before the refusal, and before the request that lowers the signal, one more
is due. -/
theorem lt_attempts (hbounded : b.IsBounded) (hgrants : b.grants n = true)
    (hstop : 0 < b.stopAfter → n < b.stopAfter) : n < b.attempts := by
  unfold grants at hgrants
  unfold attempts
  cases hlimit : b.failAfter with
  | none =>
    rcases hbounded with hsome | hpos
    · simp [hlimit] at hsome
    · exact hstop hpos
  | some limit =>
    have hle : n ≤ limit := by simpa [hlimit] using hgrants
    show n < if b.stopAfter = 0 then limit + 1 else min b.stopAfter (limit + 1)
    split
    · omega
    · have := hstop (by omega)
      omega

/-- Every request is granted, but for the last one if the budget refuses it. -/
theorem successes_add :
    b.successes + (if b.grants b.attempts then 0 else 1) = b.attempts := by
  unfold successes grants
  cases hlimit : b.failAfter with
  | none => rfl
  | some limit =>
    have hle : b.attempts ≤ limit + 1 := by
      apply attempts_le_of_refused
      simp [grants, hlimit]
    show min b.attempts limit + (if decide (b.attempts ≤ limit) = true then 0 else 1) = b.attempts
    by_cases h : b.attempts ≤ limit
    · rw [if_pos (decide_eq_true h)]
      omega
    · rw [if_neg (by simpa using h)]
      omega

theorem failures_eq : b.failures = if b.grants b.attempts then 0 else 1 := by
  have := b.successes_add
  unfold failures
  omega

/-- The request that lowers the signal is the last one. -/
theorem lowers_of_stopAfter (hstop : b.stopAfter = n + 1) (hlt : n < b.attempts) :
    b.lowers = true ∧ b.attempts = n + 1 := by
  have hle := attempts_le_stopAfter (b := b) (by omega)
  have heq : b.attempts = n + 1 := by omega
  refine ⟨?_, heq⟩
  simp [lowers, hstop, heq]

end Budget

section Request

variable (t : Telemetry) (journal : List JournalEntry) (state : BudgetState) (bytes : UInt64)

theorem Allocator.budgeted_granted :
    (Allocator.budgeted.request t journal state bytes).granted =
      state.budget.grants (state.calls + 1) := by
  simp only [budgeted, Budget.grants]
  cases state.budget.failAfter <;> rfl

theorem Allocator.budgeted_state :
    (Allocator.budgeted.request t journal state bytes).state =
      { state with calls := state.calls + 1 } := rfl

end Request

/-! ## How far a worker has come -/

variable {horizon : Nanos}

/-- How far a memory worker on a budget has come.  Workers whose deadline lies
within the horizon are meant to end without a request. -/
structure MemoryWorker.OnBudget (horizon : Nanos) (w : MemoryWorker BudgetState) : Prop where
  bounded : horizon < w.deadline.instant → w.allocator.budget.IsBounded
  fits : horizon < w.deadline.instant →
    w.allocator.budget.successes * w.plan.blockBytes.toNat < 2 ^ 64
  /-- Each attempt is one request. -/
  attempts_eq : w.summary.attempts =
    w.allocator.calls + if w.stage = .requesting then 1 else 0
  calls_le : w.allocator.calls ≤ w.allocator.budget.attempts
  calls_lt : w.stage = .attempting ∨ w.stage = .requesting →
    w.allocator.calls < w.allocator.budget.attempts
  /-- The worker knows of a refusal, or is about to record it. -/
  refused_iff : w.allocator.budget.grants w.allocator.calls = false ↔
    w.summary.degraded = true ∨ w.stage = .refused
  /-- Until the end every block is kept. -/
  retained_eq : w.plan.keep = true → w.stage ≠ .leaving → w.stage ≠ .gone →
    w.retained + (if w.stage = .retaining then 1 else 0) = w.summary.allocated
  outside : w.deadline.instant ≤ horizon →
    w.allocator.calls = 0 ∧ (w.stage = .polling ∨ w.stage.isPast = true)

namespace MemoryWorker

/-- Whether the worker has made the request that lowers the signal. -/
def hasLowered (w : MemoryWorker BudgetState) : Prop :=
  0 < w.allocator.budget.stopAfter ∧ w.allocator.budget.stopAfter ≤ w.allocator.calls

namespace OnBudget

variable {w : MemoryWorker BudgetState} (h : w.OnBudget horizon)

include h

/-- Only a worker whose deadline lies beyond the horizon takes blocks. -/
theorem horizon_lt (hstage : w.stage ≠ .polling) (hpast : w.stage.isPast = false) :
    horizon < w.deadline.instant := by
  by_contra hnot
  rcases (h.outside (Nat.not_lt.1 hnot)).2 with hpolling | hisPast
  · exact hstage hpolling
  · rw [hpast] at hisPast
    cases hisPast

/-- Every block was asked for; a request that was refused brought none. -/
theorem allocated_add_le (hsound : w.Sound) :
    w.summary.allocated + (if w.allocator.budget.grants w.allocator.calls then 0 else 1) ≤
      w.allocator.calls := by
  have hattempts := hsound.attempts_eq
  rw [h.attempts_eq] at hattempts
  by_cases hrequesting : w.stage = .requesting
  · -- the request that is open has not been made
    have hnot : w.summary.degraded = false := hsound.not_degraded (by rw [hrequesting]; rfl)
    have hgrants : w.allocator.budget.grants w.allocator.calls = true := by
      by_contra hfalse
      rcases h.refused_iff.1 (by simpa using hfalse) with hdegraded | hrefused
      · rw [hnot] at hdegraded
        cases hdegraded
      · rw [hrequesting] at hrefused
        cases hrefused
    simp only [hrequesting, hnot, MemoryStage.isOpen] at hattempts
    rw [hgrants, if_pos rfl]
    simp at hattempts
    omega
  · rw [if_neg hrequesting] at hattempts
    cases hgrants : w.allocator.budget.grants w.allocator.calls with
    | true =>
      rw [if_pos rfl]
      omega
    | false =>
      rw [if_neg (by simp)]
      rcases h.refused_iff.1 hgrants with hdegraded | hrefused
      · rw [if_pos hdegraded] at hattempts
        omega
      · have hopen : w.stage.isOpen = true := by rw [hrefused]; rfl
        rw [if_pos hopen] at hattempts
        omega

/-- No worker is granted more blocks than its budget has. -/
theorem allocated_le (hsound : w.Sound) :
    w.summary.allocated ≤ w.allocator.budget.successes := by
  have hadd := w.allocator.budget.successes_add
  have hle := h.allocated_add_le hsound
  rcases Nat.lt_or_ge w.allocator.calls w.allocator.budget.attempts with hlt | hge
  · split at hadd <;> split at hle <;> omega
  · rw [← Nat.le_antisymm h.calls_le hge] at hadd
    omega

/-- A worker that owes no request, with its last outcome recorded, has done what
its budget comes to. -/
theorem summary_eq (hsound : w.Sound) (hopen : w.stage.isOpen = false)
    (hcalls : w.allocator.budget.attempts ≤ w.allocator.calls) :
    w.summary.attempts = w.allocator.budget.attempts ∧
      w.summary.allocated = w.allocator.budget.successes ∧
      (if w.summary.degraded then 1 else 0) = w.allocator.budget.failures := by
  have hadd := w.allocator.budget.successes_add
  have heq : w.allocator.calls = w.allocator.budget.attempts := Nat.le_antisymm h.calls_le hcalls
  have hsum := hsound.attempts_eq
  have hattempts := h.attempts_eq
  have hrequesting : w.stage ≠ .requesting := fun hs => by simp [hs, MemoryStage.isOpen] at hopen
  have hrefused : w.stage ≠ .refused := fun hs => by simp [hs, MemoryStage.isOpen] at hopen
  have hdegraded : w.summary.degraded = !w.allocator.budget.grants w.allocator.budget.attempts := by
    have hiff := h.refused_iff
    rw [heq, or_iff_left hrefused] at hiff
    cases hgrants : w.allocator.budget.grants w.allocator.budget.attempts <;> simp_all
  rw [if_neg hrequesting] at hattempts
  rw [hopen, hdegraded] at hsum
  rw [Budget.failures_eq, hdegraded]
  cases hgrants : w.allocator.budget.grants w.allocator.budget.attempts with
  | true =>
    simp only [hgrants, Bool.not_true, Bool.false_eq_true, if_true, if_false] at hsum hadd
    refine ⟨?_, ?_, rfl⟩ <;> omega
  | false =>
    simp only [hgrants, Bool.not_false, Bool.false_eq_true, if_true, if_false] at hsum hadd
    refine ⟨?_, ?_, rfl⟩ <;> omega

theorem retained_le (hsound : w.Sound) : w.retained ≤ w.summary.allocated := by
  cases hkeep : w.plan.keep with
  | false =>
    rw [hsound.retained_of_not_keep hkeep]
    exact Nat.zero_le _
  | true =>
    by_cases hdone : w.stage = .leaving ∨ w.stage = .gone
    · rw [hsound.retained_of_done hdone]
      exact Nat.zero_le _
    · have := h.retained_eq hkeep (fun hs => hdone (.inl hs)) fun hs => hdone (.inr hs)
      omega

/-- What a worker keeps fits into a word. -/
theorem retained_fits (hsound : w.Sound) : w.retained * w.plan.blockBytes.toNat < 2 ^ 64 := by
  have hle := h.retained_le hsound
  by_cases hlasts : horizon < w.deadline.instant
  · refine Nat.lt_of_le_of_lt (Nat.mul_le_mul_right _ ?_) (h.fits hlasts)
    exact hle.trans (h.allocated_le hsound)
  · have hcalls := (h.outside (Nat.not_lt.1 hlasts)).1
    have hadd := h.allocated_add_le hsound
    have hzero : w.retained = 0 := by omega
    rw [hzero, Nat.zero_mul]
    exact Nat.two_pow_pos 64

end OnBudget

end MemoryWorker

/-- A worker that is launched with a fresh budget has not come far. -/
theorem MemoryWorker.onBudget_of_launch {plan : MemoryPlan} {deadline : Deadline}
    {state : BudgetState} (hcalls : state.calls = 0)
    (hbounded : horizon < deadline.instant → state.budget.IsBounded)
    (hfits : horizon < deadline.instant →
      state.budget.successes * plan.blockBytes.toNat < 2 ^ 64) :
    ({ plan, deadline, allocator := state } : MemoryWorker BudgetState).OnBudget horizon where
  bounded := hbounded
  fits := hfits
  attempts_eq := by simp [hcalls]
  calls_le := by simp [hcalls]
  calls_lt hstage := by simp at hstage
  refused_iff := by simp [hcalls, Budget.grants_zero]
  retained_eq _ _ _ := by simp
  outside _ := ⟨hcalls, .inl rfl⟩

/-- A worker without a thread uses none of its budget. -/
theorem MemoryWorker.onBudget_of_short {plan : MemoryPlan} {now : Nanos} {state : BudgetState}
    (hcalls : state.calls = 0) (hnow : now ≤ horizon) :
    ({ plan, deadline := ⟨now⟩, allocator := state, stage := .leaving } :
      MemoryWorker BudgetState).OnBudget horizon where
  bounded hlt := absurd hnow (Nat.not_le.2 hlt)
  fits hlt := absurd hnow (Nat.not_le.2 hlt)
  attempts_eq := by simp [hcalls]
  calls_le := by simp [hcalls]
  calls_lt hstage := by simp at hstage
  refused_iff := by simp [hcalls, Budget.grants_zero]
  retained_eq _ hstage := absurd rfl hstage
  outside _ := ⟨hcalls, .inr rfl⟩

/-- A step keeps a worker on its budget.  Where it looks, it goes on only if its
deadline lies beyond the horizon and it has not lowered the signal. -/
theorem MemoryWorker.Moves.onBudget {s s' : Scene (List JournalEntry)}
    {w w' : MemoryWorker BudgetState} (h : w.Moves .budgeted s s' w') (hsound : w.Sound)
    (hon : w.OnBudget horizon)
    (hgo : s.goesOn w.deadline = true → horizon < w.deadline.instant ∧ ¬ w.hasLowered) :
    w'.OnBudget horizon := by
  obtain ⟨hbounded, hfits, hattempts, hle, hlt, hrefused, hretained, houtside⟩ := id hon
  cases h with
  | goOn hstage hon' hidle =>
    obtain ⟨hbeyond, hnot⟩ := hgo hon'
    have hgrants : w.allocator.budget.grants w.allocator.calls = true := by
      by_contra hfalse
      rcases hrefused.1 (by simpa using hfalse) with hdegraded | hstage'
      · rw [isIdle, hdegraded] at hidle
        cases hidle
      · rw [hstage] at hstage'
        cases hstage'
    have hdue := Budget.lt_attempts (hbounded hbeyond) hgrants fun hpos =>
      Nat.lt_of_not_le fun hle => hnot ⟨hpos, hle⟩
    constructor <;> simp_all
  | request hstage reply hreply =>
    have hbeyond := hon.horizon_lt (by simp [hstage]) (by rw [hstage]; rfl)
    have hnot : w.summary.degraded = false := hsound.not_degraded (by rw [hstage]; rfl)
    have hdue := hlt (.inr hstage)
    subst hreply
    rw [Allocator.budgeted_granted, Allocator.budgeted_state]
    cases hgrants : w.allocator.budget.grants (w.allocator.calls + 1) <;> constructor <;>
      simp_all [MemoryStage.isPast]
  | pause hstage =>
    by_cases hnap : w.nap s.now = 0 <;> constructor <;> simp_all [MemoryStage.isPast]
  | grant hstage =>
    cases hplan : w.plan.keep <;> constructor <;> simp_all [MemoryStage.isPast]
  | _ => constructor <;> simp_all [MemoryStage.isPast]

end ResourceFaults
