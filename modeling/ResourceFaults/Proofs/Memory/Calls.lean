import Mathlib
import ResourceFaults.Proofs.Memory.Ledger

/-!
# The calls of a memory worker

How often a worker on its own calls its allocator is decided by two numbers: how many
of its looks were told to go on, and which call is the first to be refused.

* `Allocator.reply` is what the allocator answers to call number `k`, counted from zero,
  of a worker whose earlier calls were all granted.  The counters that the call finds are
  `MemoryPlan.atCall`, a closed form, so the replies do not refer to any run of the
  worker.  `Allocator.firstRefusal` is the number of the first refused call, counted from
  one, and infinite if no call is refused.
* `Allocator.journaled` is the same allocator with a journal of its calls.
* `MemoryWorker.Calling` is the invariant of a run: the calls made so far have been
  answered by these replies, and every look that was told to go on has led to a call
  unless one was refused.

`MemoryWorker.reckoning_alone` says what follows: the worker makes `min n f` calls.
-/

namespace ResourceFaults

variable {ε σ : Type}

/-! ## Replies -/

/-- The counters that call number `k` of a worker finds when all calls before it were
granted; they stood at `t` when the worker had just entered. -/
def MemoryPlan.atCall (p : MemoryPlan) (t : Telemetry) (k : Nat) : Telemetry :=
  let kept := if p.keep then k else 0
  { t with
    allocAttempts := t.allocAttempts + UInt64.ofNat (k + 1)
    allocSuccesses := t.allocSuccesses + UInt64.ofNat k
    lastBlockBytes := p.blockBytes
    retainedBlocks := t.retainedBlocks + UInt64.ofNat kept
    retainedBytes := t.retainedBytes + UInt64.ofNat (kept * p.blockBytes.toNat) }

namespace Allocator

variable (a : Allocator ε σ) (p : MemoryPlan) (s : Scene ε) (state : σ)

/-- What lies around the allocator before call number `k`, and the allocator's state. -/
def before : Nat → ε × σ
  | 0 => (s.environment, state)
  | k + 1 =>
    let reply := a.request (p.atCall s.telemetry k) (before k).1 (before k).2 p.blockBytes
    (reply.environment, reply.state)

/-- The answer to call number `k`. -/
def reply (k : Nat) : Reply ε σ :=
  a.request (p.atCall s.telemetry k) (a.before p s state k).1 (a.before p s state k).2 p.blockBytes

/-- The number of the first refused call, counted from one. -/
noncomputable def firstRefusal : ℕ∞ :=
  sInf {f | ∃ k : ℕ, (a.reply p s state k).granted = false ∧ f = k + 1}

variable {a p s state}

theorem before_succ {k : Nat} :
    a.before p s state (k + 1) = ((a.reply p s state k).environment, (a.reply p s state k).state) :=
  rfl

theorem lt_firstRefusal_iff {n : ℕ} :
    (n : ℕ∞) < a.firstRefusal p s state ↔ ∀ k < n, (a.reply p s state k).granted = true := by
  rw [← ENat.add_one_le_iff (ENat.natCast_ne_top n), firstRefusal, le_sInf_iff]
  constructor
  · intro h k hk
    by_contra hrefused
    have hle := h (k + 1) ⟨k, by simpa using hrefused, rfl⟩
    norm_cast at hle
    omega
  · rintro h f ⟨k, hrefused, rfl⟩
    have hle : n ≤ k := by
      by_contra hlt
      rw [h k (by omega)] at hrefused
      cases hrefused
    norm_cast
    omega

theorem firstRefusal_eq {g : ℕ} (hgranted : ∀ k < g, (a.reply p s state k).granted = true)
    (hrefused : (a.reply p s state g).granted = false) :
    a.firstRefusal p s state = (g : ℕ∞) + 1 := by
  refine le_antisymm (sInf_le ⟨g, hrefused, rfl⟩) ?_
  rw [ENat.add_one_le_iff (ENat.natCast_ne_top g)]
  exact lt_firstRefusal_iff.2 hgranted

end Allocator

/-! ## Journals -/

/-- The same allocator, with a journal of its calls beside what lies around it. -/
def Allocator.journaled (a : Allocator ε σ) : Allocator (ε × List JournalEntry) σ where
  request t environment state bytes :=
    let reply := a.request t environment.1 state bytes
    { granted := reply.granted
      stops := reply.stops
      environment := (reply.environment, environment.2 ++ [⟨bytes, t⟩])
      state := reply.state }

/-- A scene with an empty journal. -/
def Scene.journaled (s : Scene ε) : Scene (ε × List JournalEntry) :=
  { armed := s.armed, telemetry := s.telemetry, environment := (s.environment, []), now := s.now }

namespace Allocator

variable {a : Allocator ε σ} {p : MemoryPlan} {s : Scene ε} {state : σ}

/-- The first calls of a worker, as the journal has them. -/
def calls (p : MemoryPlan) (t : Telemetry) (count : Nat) : List JournalEntry :=
  (List.range count).map fun k => ⟨p.blockBytes, p.atCall t k⟩

theorem before_journaled (k : Nat) :
    a.journaled.before p s.journaled state k =
      (((a.before p s state k).1, calls p s.telemetry k), (a.before p s state k).2) := by
  induction k with
  | zero => rfl
  | succ k ih =>
    rw [before, ih]
    simp [journaled, Scene.journaled, before, calls, List.range_succ]

theorem granted_journaled (k : Nat) :
    (a.journaled.reply p s.journaled state k).granted = (a.reply p s state k).granted := by
  rw [reply, before_journaled]
  rfl

theorem firstRefusal_journaled :
    a.journaled.firstRefusal p s.journaled state = a.firstRefusal p s state := by
  simp only [firstRefusal, granted_journaled]

end Allocator

/-! ## The calls of a run -/

namespace MemoryWorker

variable {a : Allocator ε σ} {s₀ s s' : Scene ε} {w w' : MemoryWorker σ} {answers : List Bool}
  {plan : MemoryPlan} {deadline : Deadline} {state : σ} {t : Telemetry}

/-- The calls that were granted so far. -/
def grants (w : MemoryWorker σ) : Nat :=
  w.summary.allocated + if w.stage = .granted then 1 else 0

/-- Whether a call has been refused. -/
def hasFailed (w : MemoryWorker σ) : Bool :=
  w.summary.degraded || w.stage = .refused

/-- Whether a look has led to a call that is not yet answered. -/
def isCalling (w : MemoryWorker σ) : Bool :=
  w.stage = .attempting || w.stage = .requesting

/-- What holds of the calls of a worker of which `told` looks were told to go on. -/
structure Calling (a : Allocator ε σ) (plan : MemoryPlan) (s₀ : Scene ε) (state : σ)
    (told : ℕ) (s : Scene ε) (w : MemoryWorker σ) : Prop where
  granted : ∀ k < w.grants, (a.reply plan s₀ state k).granted = true
  refused : w.hasFailed = true → (a.reply plan s₀ state w.grants).granted = false
  before_eq : (s.environment, w.allocator) =
    a.before plan s₀ state (w.grants + if w.hasFailed then 1 else 0)
  /-- As long as no call was refused, each answer to go on has led to a call. -/
  told_eq : w.hasFailed = false → told = w.grants + if w.isCalling then 1 else 0
  told_gt : w.hasFailed = true → w.grants < told

theorem calling_launched :
    Calling a plan s₀ state 0 s₀ (launched plan deadline state) where
  granted _ h := absurd h (Nat.not_lt_zero _)
  refused h := by cases h
  before_eq := rfl
  told_eq _ := rfl
  told_gt h := by cases h

namespace Calling

variable {told : ℕ}

theorem looked (h : Calling a plan s₀ state told s w) (hstage : w.stage = .polling)
    (goesOn : Bool) :
    Calling a plan s₀ state (told + if goesOn then 1 else 0) s (w.looked goesOn) := by
  rcases h with ⟨hgranted, hrefused, hbefore, htold, hgt⟩
  have hgrants : (w.looked goesOn).grants = w.grants := by
    cases goesOn <;> cases hidle : w.isIdle <;> simp [MemoryWorker.looked, grants, hstage, hidle]
  have hfailed : (w.looked goesOn).hasFailed = w.hasFailed := by
    cases goesOn <;> cases hidle : w.isIdle <;>
      simp [MemoryWorker.looked, hasFailed, hstage, hidle]
  have hcalling : (w.looked goesOn).isCalling = (goesOn && !w.hasFailed) := by
    cases goesOn <;> cases hidle : w.summary.degraded <;>
      simp [MemoryWorker.looked, isCalling, hasFailed, isIdle, hstage, hidle]
  have hnot : w.isCalling = false := by simp [isCalling, hstage]
  constructor <;> simp only [hgrants, hfailed, hcalling]
  · exact hgranted
  · exact hrefused
  · exact hbefore
  · intro hnone
    rw [htold hnone, hnot, hnone]
    simp
  · exact fun hsome => Nat.lt_add_right _ (hgt hsome)

/-- What does not concern the calls of a worker leaves them as they are. -/
theorem frame (h : Calling a plan s₀ state told s w) (hgrants : w'.grants = w.grants)
    (hfailed : w'.hasFailed = w.hasFailed) (hcalling : w'.isCalling = w.isCalling)
    (hsame : (s'.environment, w'.allocator) = (s.environment, w.allocator)) :
    Calling a plan s₀ state told s' w' := by
  rcases h with ⟨hgranted, hrefused, hbefore, htold, hgt⟩
  constructor <;> simp only [hgrants, hfailed, hcalling, hsame] <;> assumption

end Calling

/-- The counters that a call finds are those of its number. -/
theorem Keeping.ledger_eq_atCall (h : w.Keeping plan) (hstage : w.stage = .requesting) :
    w.ledger t = plan.atCall t w.summary.allocated := by
  rcases h with ⟨rfl, hsound, hretained, hblocks⟩
  have hnot : w.summary.degraded = false := hsound.not_degraded (by rw [hstage]; rfl)
  have hattempts : w.summary.attempts = w.summary.allocated + 1 := by
    simpa [hnot, hstage, MemoryStage.isOpen] using hsound.attempts_eq
  have hkept : w.retained = if w.plan.keep then w.summary.allocated else 0 := by
    simpa [hstage, hasReleased] using hretained
  have hnone : w.summary.retainedBlocks = 0 := by simpa [hstage, hasReleased] using hblocks
  simp only [ledger, MemoryPlan.atCall, hstage, hnot, hattempts, hkept, hnone]
  simp

theorem Moves.calling {told : ℕ} (hmoves : w.Moves a s s' w') (hstage : w.stage ≠ .polling)
    (hkeeping : w.Keeping plan) (hs : s.telemetry = w.ledger s₀.telemetry)
    (h : Calling a plan s₀ state told s w) : Calling a plan s₀ state told s' w' := by
  cases hmoves with
  | dismiss hpolling | goOn hpolling | idle hpolling => exact absurd hpolling hstage
  | attempt hnow | retain hnow | refuse hnow | wake _ hnow | release hnow | leave hnow =>
    apply h.frame <;> simp [grants, hasFailed, isCalling, hnow, Scene.record, Scene.leave]
  | grant hnow =>
    apply h.frame <;> simp [grants, hasFailed, isCalling, hnow, Scene.record] <;> split <;> simp
  | pause hnow => apply h.frame <;> simp [grants, hasFailed, isCalling, hnow] <;> split <;> simp
  | request hnow reply hreply =>
    have hdegraded : w.summary.degraded = false :=
      hkeeping.sound.not_degraded (by rw [hnow]; rfl)
    have hnot : w.hasFailed = false := by simp [hasFailed, hnow, hdegraded]
    have hcalling : w.isCalling = true := by simp [isCalling, hnow]
    have hgrants : w.grants = w.summary.allocated := by simp [grants, hnow]
    have htold := h.told_eq hnot
    have hbefore := h.before_eq
    have hgranted := h.granted
    simp only [hnot, hcalling, hgrants, if_true, Bool.false_eq_true, if_false, Nat.add_zero]
      at htold hbefore hgranted
    have hanswer : a.reply plan s₀ state w.summary.allocated = reply := by
      rw [Allocator.reply, ← hbefore, ← hkeeping.ledger_eq_atCall hnow, ← hs, ← hkeeping.plan_eq]
      exact hreply
    have hafter : (reply.environment, reply.state) =
        a.before plan s₀ state (w.summary.allocated + 1) := by
      rw [Allocator.before_succ, hanswer]
    cases hreplied : reply.granted with
    | true =>
      constructor <;> simp only [grants, hasFailed, isCalling, if_true]
      · intro k hk
        rcases Nat.lt_succ_iff_lt_or_eq.1 hk with hlt | rfl
        · exact hgranted k hlt
        · rw [hanswer, hreplied]
      · simp [hdegraded]
      · simpa [hdegraded] using hafter
      · simp [htold]
      · simp [hdegraded]
    | false =>
      constructor <;> simp [grants, hasFailed, isCalling]
      · exact hgranted
      · rw [hanswer, hreplied]
      · exact hafter
      · omega

theorem Alone.calling (h : Alone a s₀ (launched plan deadline state) answers s w) :
    Calling a plan s₀ state (answers.count true) s w := by
  refine h.keeps (P := fun answers s w => Calling a plan s₀ state (answers.count true) s w)
    calling_launched ?_ ?_ ?_
  · intro answers s w goesOn hstage h
    have hcount : (answers ++ [goesOn]).count true =
        answers.count true + if goesOn then 1 else 0 := by
      cases goesOn <;> simp
    rw [hcount]
    exact h.looked hstage goesOn
  · intro answers s w s' w' halone hstage hmoves h
    obtain ⟨hkeeping, hs⟩ := halone.telemetry_eq
    exact hmoves.calling hstage hkeeping hs h
  · exact fun answers s w armed time h => h.frame rfl rfl rfl rfl

/-! ## The reckoning -/

/-- What a worker has done, and what it has put into the counters, after `n` of its looks
were told to go on. -/
structure Reckoning (a : Allocator ε σ) (plan : MemoryPlan) (s₀ : Scene ε) (state : σ) (n : ℕ)
    (s : Scene (ε × List JournalEntry)) (w : MemoryWorker σ) : Prop where
  attempts_eq : (w.summary.attempts : ℕ∞) = min (n : ℕ∞) (a.firstRefusal plan s₀ state)
  allocated_eq : (w.summary.allocated : ℕ∞) = min (n : ℕ∞) (a.firstRefusal plan s₀ state - 1)
  degraded_iff : w.summary.degraded = true ↔ a.firstRefusal plan s₀ state ≤ n
  /-- The calls of the run, with the size and the counters of each, in order. -/
  journal_eq : s.environment.2 = Allocator.calls plan s₀.telemetry w.summary.attempts
  allocAttempts_eq : s.telemetry.allocAttempts =
    s₀.telemetry.allocAttempts + UInt64.ofNat w.summary.attempts
  allocSuccesses_eq : s.telemetry.allocSuccesses =
    s₀.telemetry.allocSuccesses + UInt64.ofNat w.summary.allocated
  allocFailures_eq : s.telemetry.allocFailures =
    s₀.telemetry.allocFailures + if w.summary.degraded then 1 else 0

/-- Between two calls every attempt has been answered. -/
theorem grants_eq (hsound : w.Sound) (hstage : w.stage = .polling ∨ w.stage = .gone) :
    w.grants = w.summary.allocated ∧ w.hasFailed = w.summary.degraded ∧ w.isCalling = false ∧
      w.summary.attempts = w.summary.allocated + if w.summary.degraded then 1 else 0 := by
  have hattempts := hsound.attempts_eq
  rcases hstage with hstage | hstage <;>
    simpa [grants, hasFailed, isCalling, hstage, MemoryStage.isOpen] using hattempts

/-- Between two calls the numbers of a worker follow from the replies. -/
theorem Calling.numbers {n : ℕ} (h : Calling a plan s₀ state n s w) (hsound : w.Sound)
    (hstage : w.stage = .polling ∨ w.stage = .gone) :
    (w.summary.attempts : ℕ∞) = min (n : ℕ∞) (a.firstRefusal plan s₀ state) ∧
      (w.summary.allocated : ℕ∞) = min (n : ℕ∞) (a.firstRefusal plan s₀ state - 1) ∧
      (w.summary.degraded = true ↔ a.firstRefusal plan s₀ state ≤ n) := by
  obtain ⟨hgrants, hfailed, hcalling, hattempts⟩ := grants_eq hsound hstage
  rcases h with ⟨hgranted, hrefused, -, htold, hgt⟩
  rw [hgrants] at hgranted hrefused hgt htold
  rw [hfailed] at hrefused hgt htold
  cases hdegraded : w.summary.degraded with
  | false =>
    have hn : n = w.summary.allocated := by simpa [hcalling] using htold hdegraded
    have hlt : (n : ℕ∞) < a.firstRefusal plan s₀ state := by
      rw [hn]
      exact Allocator.lt_firstRefusal_iff.2 hgranted
    have hle : (n : ℕ∞) ≤ a.firstRefusal plan s₀ state - 1 :=
      ENat.le_sub_of_add_le_right ENat.one_ne_top
        ((ENat.add_one_le_iff (ENat.natCast_ne_top n)).2 hlt)
    rw [min_eq_left hlt.le, min_eq_left hle, hattempts, hdegraded, hn]
    simpa [hn] using hlt
  | true =>
    have hf := Allocator.firstRefusal_eq hgranted (hrefused hdegraded)
    have hlt := hgt hdegraded
    have hpred : (w.summary.allocated : ℕ∞) + 1 - 1 = (w.summary.allocated : ℕ∞) := by norm_cast
    have hle : (w.summary.allocated : ℕ∞) + 1 ≤ (n : ℕ∞) := by
      norm_cast
    rw [hf, hpred, min_eq_right hle, min_eq_right ((le_add_right le_rfl).trans hle), hattempts,
      hdegraded]
    simp [hle]

/-- What a worker on its own comes to, whatever its looks are told.  It is never stuck,
and ends once it is told to stop.  At each look and at its end it has called its
allocator `min n f` times, where `n` of its looks were told to go on and `f` is the first
call to be refused; call number `k` found the counters that `k` earlier grants leave. -/
theorem reckoning_alone (a : Allocator ε σ) (plan : MemoryPlan) (deadline : Deadline)
    (s₀ : Scene ε) (state : σ) :
    let run := Alone a.journaled s₀.journaled (launched plan deadline state)
    (∀ answers s w, run answers s w → false ∉ answers → ∀ more, ∃ s' w',
      run (answers ++ List.replicate more true ++ [false]) s' w' ∧ w'.stage = .gone) ∧
    ∀ answers s w, run answers s w →
      (w.stage = .polling ∨ w.stage = .gone →
        Reckoning a plan s₀ state (answers.count true) s w) ∧
      (w.stage = .gone →
        answers = List.replicate (answers.count true) true ++ [false] ∧
        w.summary.retainedBlocks = (if plan.keep then w.summary.allocated else 0) ∧
        s.telemetry.memActive = s₀.telemetry.memActive - 1) := by
  intro run
  refine ⟨fun answers s w h hnever more => ?_,
    fun answers s w h => ⟨fun hstage => ?_, fun hgone => ?_⟩⟩
  · exact h.exists_gone (h.isPast_eq_false rfl hnever) more
  · obtain ⟨hkeeping, hs⟩ := h.telemetry_eq
    obtain ⟨hattempts, hallocated, hdegraded⟩ := h.calling.numbers hkeeping.sound hstage
    rw [Allocator.firstRefusal_journaled] at hattempts hallocated hdegraded
    refine ⟨hattempts, hallocated, hdegraded, ?_, by rw [hs]; rfl, by rw [hs]; rfl, by rw [hs]; rfl⟩
    obtain ⟨hgrants, hfailed, -, hanswered⟩ := grants_eq hkeeping.sound hstage
    have hbefore := congrArg (fun p => p.1.2) h.calling.before_eq
    rwa [Allocator.before_journaled, hgrants, hfailed, ← hanswered] at hbefore
  · obtain ⟨hkeeping, hs⟩ := h.telemetry_eq
    refine ⟨by simpa [hgone, MemoryStage.isPast] using h.answers_eq rfl, ?_, ?_⟩
    · simpa [hasReleased, hgone] using hkeeping.retainedBlocks_eq
    · rw [hs]
      simp [ledger, hgone, Scene.journaled]

/-- Of three looks that were told to go on the second leads to a call that is refused:
the worker has made two calls, and goes on without one. -/
theorem reckoning_of_second_refused :
    let s₀ : Scene (List JournalEntry) := { telemetry := { memActive := 1 }, environment := [] }
    let plan : MemoryPlan := ⟨1048576, 0, true⟩
    ∃ s w, Alone Allocator.budgeted.journaled s₀.journaled
        (launched plan ⟨1⟩ ⟨⟨some 1, 0⟩, 0⟩) [true, true, true, false] s w ∧
      w.stage = .gone ∧ w.summary = ⟨2, 1, 1, true⟩ ∧
      s.environment.2 = Allocator.calls plan s₀.telemetry 2 ∧
      s.telemetry.allocFailures = 1 ∧ s.telemetry.memActive = 0 := by
  intro s₀ plan
  obtain ⟨hends, hreckoned⟩ := reckoning_alone .budgeted plan ⟨1⟩ s₀ ⟨⟨some 1, 0⟩, 0⟩
  obtain ⟨s, w, hrun, hgone⟩ := hends [] _ _ .start (by simp) 3
  have hf : Allocator.budgeted.firstRefusal plan s₀ ⟨⟨some 1, 0⟩, 0⟩ = (2 : ℕ) :=
    Allocator.firstRefusal_eq (g := 1) (by decide) (by decide)
  have hpred : ((2 : ℕ) : ℕ∞) - 1 = (1 : ℕ) := by norm_cast
  have hthree : ([] ++ List.replicate 3 true ++ [false]).count true = 3 := by decide
  obtain ⟨hreckoning, hend⟩ := hreckoned _ s w hrun
  obtain ⟨hattempts, hallocated, hdegraded, hjournal, -, -, hfailures⟩ := hreckoning (.inr hgone)
  obtain ⟨-, hretained, hactive⟩ := hend hgone
  rw [hthree, hf, min_eq_right (by norm_cast), Nat.cast_inj] at hattempts
  rw [hthree, hf, hpred, min_eq_right (by norm_cast), Nat.cast_inj] at hallocated
  have hdegraded : w.summary.degraded = true := by
    rw [hdegraded, hthree, hf]
    norm_cast
  have hkept : w.summary.retainedBlocks = 1 := by rw [hretained, hallocated]; rfl
  refine ⟨s, w, hrun, hgone, ?_, by rw [hjournal, hattempts], ?_, by simp [hactive, s₀]⟩
  · rcases hw : w.summary with ⟨attempts, allocated, retained, degraded⟩
    simp_all
  · rw [hfailures, hdegraded]
    rfl

end MemoryWorker

end ResourceFaults
