import Mathlib
import ResourceFaults.Proofs.Engine.Starts
import ResourceFaults.Proofs.Engine.Stop

/-!
# Counting work in batches

A CPU worker counts its steps of work by itself and publishes them batch by batch, so
that the counters that all workers share are touched once in 65536 steps.  Nothing is
lost or counted twice by that: `CpuWorker.Batched` says what a worker that has made `n`
steps has counted and not yet published, at each of its stages, and whether it is
counted as a worker that has made progress.

`Engine.worked` counts the steps of work of one worker in a run.  `Engine.Batching` is
the invariant: each of the two counters stands above its starting value by the sum over
all workers of what they have published.  `Engine.batches_of_run` is what it comes to
for plain counts.
-/

namespace ResourceFaults

variable {ε σ : Type}

/-! ## One worker -/

/-- What a CPU worker at a stage has counted of its `n` steps and not yet published. -/
def CpuStage.pendingOf (n : ℕ) : CpuStage → ℕ
  | polling | working | closing => n % 65536
  | publishing => 65536
  | announcing | leaving | gone => 0

/-- Whether a CPU worker is about to publish a batch, or to say that it was its first. -/
def CpuStage.isFlushing : CpuStage → Bool
  | publishing | announcing => true
  | _ => false

theorem FibonacciLoad.steps_succ (n : ℕ) (l : FibonacciLoad) :
    steps (n + 1) l = (steps n l).step := by
  induction n generalizing l with
  | zero => rfl
  | succ n ih => exact ih l.step

/-- After `n` steps a worker stands at the Fibonacci numbers `n` and `n + 1`, as far as
they go into words. -/
theorem FibonacciLoad.steps_eq_fib (n : ℕ) :
    steps n {} = ⟨UInt64.ofNat (Nat.fib n), UInt64.ofNat (Nat.fib (n + 1))⟩ := by
  induction n with
  | zero => rfl
  | succ n ih =>
    rw [steps_succ, ih, step, Nat.fib_add_two, UInt64.ofNat_add]

/-- What holds of a CPU worker that has made `n` steps of work. -/
structure CpuWorker.Batched (n : ℕ) (w : CpuWorker) : Prop where
  load_eq : w.load = FibonacciLoad.steps n {}
  pending_eq : w.pending.toNat = w.stage.pendingOf n
  /-- A worker has made progress with its first batch, once that is published. -/
  progressed_eq : w.progressed = decide ((if w.stage.isFlushing then 2 else 1) * 65536 ≤ n)
  /-- A batch is published when it is full. -/
  full : w.stage.isFlushing = true → n % 65536 = 0 ∧ 0 < n
  first : w.stage = .announcing → n = 65536

/-- Whether a CPU worker has not worked: it is at its first look, or it has no
thread. -/
structure CpuWorker.IsNew (w : CpuWorker) : Prop where
  load_eq : w.load = {}
  pending_eq : w.pending = 0
  progressed_eq : w.progressed = false
  stage_eq : w.stage = .polling ∨ w.stage = .leaving ∨ w.stage = .gone

theorem CpuWorker.IsNew.batched {w : CpuWorker} (h : w.IsNew) : w.Batched 0 := by
  obtain ⟨hload, hpending, hprogressed, hstage⟩ := h
  have hflushing : w.stage.isFlushing = false := by
    rcases hstage with hstage | hstage | hstage <;> rw [hstage] <;> rfl
  constructor
  · exact hload
  · rw [hpending]
    rcases hstage with hstage | hstage | hstage <;> rw [hstage] <;> rfl
  · rw [hprogressed, hflushing]
    rfl
  · simp [hflushing]
  · intro hannouncing
    rw [hannouncing] at hflushing
    cases hflushing

namespace CpuWorker

variable {s s' : Scene ε} {w w' : CpuWorker} {n : ℕ}

/-- A step of work fills the batch exactly if the number of steps comes to a multiple of
its size. -/
theorem Batched.toNat_pending_succ (h : w.Batched n) (hstage : w.stage = .working) :
    (w.pending + 1).toNat = n % 65536 + 1 ∧
      ((w.pending + 1 == cpuBatch) = decide (n % 65536 + 1 = 65536)) := by
  have hpending := h.pending_eq
  rw [hstage] at hpending
  have hsucc : (w.pending + 1).toNat = n % 65536 + 1 := by
    rw [UInt64.toNat_add, hpending]
    simp only [CpuStage.pendingOf, UInt64.toNat_one]
    omega
  refine ⟨hsucc, ?_⟩
  rw [← hsucc, Bool.beq_eq_decide_eq, decide_eq_decide, ← UInt64.toNat_inj]
  rfl

theorem Moves.batched (hmoves : w.Moves s s' w') (h : w.Batched n) :
    w'.Batched (n + if w.stage = .working then 1 else 0) := by
  have hworked := h.toNat_pending_succ
  rcases h with ⟨hload, hpending, hprogressed, hfull, hfirst⟩
  cases hmoves with
  | goOn hstage | dismiss hstage | close hstage | leave hstage =>
    simp only [hstage, reduceCtorEq, if_false, Nat.add_zero] at *
    exact ⟨hload, by simp_all [CpuStage.pendingOf], hprogressed, hfull, by simp⟩
  | work hstage =>
    obtain ⟨hsucc, hfills⟩ := hworked hstage
    simp only [hstage, CpuStage.isFlushing, Bool.false_eq_true, if_false, if_true] at *
    rw [hfills]
    have hmod : n % 65536 < 65536 := Nat.mod_lt _ (by decide)
    by_cases hbatch : n % 65536 + 1 = 65536
    · simp only [hbatch, decide_true, if_true]
      constructor
      · rw [FibonacciLoad.steps_succ, hload]
      · rw [hsucc, hbatch, CpuStage.pendingOf]
      · rw [hprogressed, decide_eq_decide]
        simp only [CpuStage.isFlushing, if_true]
        omega
      · omega
      · simp
    · simp only [hbatch, decide_false, Bool.false_eq_true, if_false]
      constructor
      · rw [FibonacciLoad.steps_succ, hload]
      · rw [hsucc, CpuStage.pendingOf]
        omega
      · rw [hprogressed, decide_eq_decide]
        simp only [CpuStage.isFlushing, Bool.false_eq_true, if_false]
        omega
      · simp [CpuStage.isFlushing]
      · simp
  | publish hstage =>
    simp only [hstage, CpuStage.isFlushing, reduceCtorEq, if_false, if_true, Nat.add_zero] at *
    obtain ⟨hmod, hpos⟩ := hfull trivial
    cases hdone : w.progressed with
    | true =>
      have htwo : 2 * 65536 ≤ n := by simpa [hdone] using hprogressed
      constructor <;> simp only [if_true, CpuStage.isFlushing, Bool.false_eq_true, if_false]
      · exact hload
      · exact hmod.symm
      · simpa using (show 65536 ≤ n by omega)
      · exact False.elim
      · exact nofun
    | false =>
      have htwo : n < 2 * 65536 := by simpa [hdone] using hprogressed
      constructor <;> simp only [CpuStage.isFlushing, if_true, Bool.false_eq_true, if_false]
      · exact hload
      · rfl
      · simpa using htwo
      · exact fun _ => ⟨hmod, hpos⟩
      · intro _
        omega
  | announce hstage =>
    simp only [hstage, CpuStage.isFlushing, reduceCtorEq, if_false, if_true, Nat.add_zero] at *
    obtain rfl : n = 65536 := hfirst trivial
    exact ⟨hload, by simpa [CpuStage.pendingOf] using hpending, by simp [CpuStage.isFlushing],
      by simp [CpuStage.isFlushing], by simp⟩

/-- What is pending is part of what was worked. -/
theorem Batched.pending_le (h : w.Batched n) : w.pending.toNat ≤ n := by
  rw [h.pending_eq]
  cases hstage : w.stage with
  | publishing =>
    have hfull := h.full (by rw [hstage]; rfl)
    show 65536 ≤ n
    omega
  | polling | working | closing => exact Nat.mod_le n 65536
  | announcing | leaving | gone => exact Nat.zero_le n

end CpuWorker

/-! ## Workers of either kind -/

namespace Worker

/-- The steps of work that a worker has counted and not yet published. -/
def unpublished : Worker σ → ℕ
  | cpu w => w.pending.toNat
  | memory _ => 0

/-- Whether a worker is counted as one that has made progress. -/
def madeProgress : Worker σ → Bool
  | cpu w => w.progressed
  | memory _ => false

/-- Whether a worker is about to publish a batch, or to say that it was its first. -/
def isFlushing : Worker σ → Bool
  | cpu w => w.stage.isFlushing
  | memory _ => false

/-- Whether a worker has published all that it has worked and works no more. -/
def isClosed : Worker σ → Bool
  | cpu w => w.stage = .leaving ∨ w.stage = .gone
  | memory _ => true

/-- Whether the next step of a worker is a step of work. -/
def isWorking : Worker σ → Bool
  | cpu w => w.stage = .working
  | memory _ => false

/-- What holds of a worker that has made `n` steps of work. -/
def Batched (n : ℕ) : Worker σ → Prop
  | cpu w => w.Batched n
  | memory _ => n = 0

/-- Whether a worker has done nothing yet, if it is a CPU worker. -/
def IsNew : Worker σ → Prop
  | cpu w => w.IsNew
  | memory _ => True

theorem IsNew.batched {w : Worker σ} (h : w.IsNew) : w.Batched 0 := by
  cases w with
  | cpu w => exact CpuWorker.IsNew.batched h
  | memory w => rfl

theorem IsNew.isWorking_eq {w : Worker σ} (h : w.IsNew) : w.isWorking = false := by
  cases w with
  | cpu w =>
    rcases CpuWorker.IsNew.stage_eq h with hstage | hstage | hstage <;> simp [isWorking, hstage]
  | memory w => rfl

theorem IsNew.madeProgress_eq {w : Worker σ} (h : w.IsNew) : w.madeProgress = false := by
  cases w with
  | cpu w => exact CpuWorker.IsNew.progressed_eq h
  | memory w => rfl

variable {a : Allocator ε σ} {s s' : Scene ε} {w w' : Worker σ} {n r : ℕ} {t : UInt64}

theorem Moves.batched (hmoves : w.Moves a s s' w') (h : w.Batched n) :
    w'.Batched (n + if w.isWorking then 1 else 0) := by
  cases hmoves with
  | @cpu w w' hmoves =>
    show w'.Batched (n + if decide (w.stage = .working) then 1 else 0)
    simpa using CpuWorker.Moves.batched hmoves h
  | memory hmoves => exact h

/-- A step changes the counter of steps by as much as it changes what the worker has
published; `r` is what the others have published. -/
theorem Moves.cpuIterations_eq (hmoves : w.Moves a s s' w') (h : w.Batched n)
    (hs : s.telemetry.cpuIterations = t + UInt64.ofNat (r + (n - w.unpublished))) :
    s'.telemetry.cpuIterations =
      t + UInt64.ofNat (r + (n + (if w.isWorking then 1 else 0) - w'.unpublished)) := by
  cases hmoves with
  | memory hmoves =>
    obtain rfl : n = 0 := h
    cases hmoves <;> exact hs
  | @cpu w w' hmoves =>
    have hpublish : s.telemetry.cpuIterations + w.pending = t + UInt64.ofNat (r + n) := by
      have hsum : r + (n - w.pending.toNat) + w.pending.toNat = r + n := by
        rw [Nat.add_assoc, Nat.sub_add_cancel (CpuWorker.Batched.pending_le h)]
      rw [hs, ← hsum, UInt64.ofNat_add _ w.pending.toNat, UInt64.ofNat_toNat, UInt64.add_assoc]
      rfl
    cases hmoves with
    | goOn hstage | dismiss hstage => simpa [isWorking, hstage, unpublished] using hs
    | announce hstage | leave hstage =>
      show s.telemetry.cpuIterations = _
      simpa [isWorking, hstage, unpublished] using hs
    | work hstage =>
      have hpending : w.pending.toNat = n % 65536 := by
        simpa [hstage, CpuStage.pendingOf] using CpuWorker.Batched.pending_eq h
      have hsucc := (CpuWorker.Batched.toNat_pending_succ h hstage).1
      have hsame : n + 1 - (w.pending + 1).toNat = n - w.pending.toNat := by omega
      simpa only [isWorking, hstage, unpublished, decide_true, if_true, hsame] using hs
    | publish hstage | close hstage =>
      show s.telemetry.cpuIterations + w.pending = _
      simpa [isWorking, hstage, unpublished] using hpublish

/-- A step changes the counter of workers that have made progress as it changes whether
the worker is one of them. -/
theorem Moves.cpuProgressed_eq (hmoves : w.Moves a s s' w') (h : w.Batched n)
    (hs : s.telemetry.cpuProgressed = t + UInt64.ofNat (r + if w.madeProgress then 1 else 0)) :
    s'.telemetry.cpuProgressed = t + UInt64.ofNat (r + if w'.madeProgress then 1 else 0) := by
  cases hmoves with
  | memory hmoves => cases hmoves <;> exact hs
  | @cpu w w' hmoves =>
    cases hmoves with
    | announce hstage =>
      have hfirst : n = 65536 := CpuWorker.Batched.first h hstage
      have hnot : w.progressed = false := by
        simpa [hstage, CpuStage.isFlushing, hfirst] using CpuWorker.Batched.progressed_eq h
      have hbefore : s.telemetry.cpuProgressed = t + UInt64.ofNat r := by
        simpa [madeProgress, hnot] using hs
      show s.telemetry.cpuProgressed + 1 = t + UInt64.ofNat (r + 1)
      rw [hbefore, UInt64.add_assoc, UInt64.ofNat_add]
      rfl
    | _ => exact hs

end Worker

/-! ### Between batches -/

namespace Worker

variable {w : Worker σ} {n : ℕ}

theorem Batched.unpublished_le (h : w.Batched n) : w.unpublished ≤ n := by
  cases w with
  | cpu w => exact CpuWorker.Batched.pending_le h
  | memory w => exact Nat.zero_le n

/-- Each worker that is counted as one that has made progress has published a full
batch before. -/
theorem Batched.progress_le (h : w.Batched n) (hdone : w.madeProgress = true) :
    65536 ≤ n - w.unpublished := by
  cases w with
  | memory w => cases hdone
  | cpu w =>
    have hpending := CpuWorker.Batched.pending_eq h
    have hprogressed := CpuWorker.Batched.progressed_eq h
    have hfirst := CpuWorker.Batched.first h
    have hmade : w.progressed = true := hdone
    rw [hmade, eq_comm, decide_eq_true_eq] at hprogressed
    show 65536 ≤ n - w.pending.toNat
    cases hstage : w.stage <;>
      simp only [hstage, CpuStage.isFlushing, CpuStage.pendingOf, if_true, Bool.false_eq_true,
        if_false] at hpending hprogressed hfirst
    case announcing => have := hfirst trivial; omega
    all_goals omega

/-- What a worker that is not publishing has published: all of it once it is closed, and
its full batches before. -/
theorem Batched.published_eq (h : w.Batched n) (hidle : w.isFlushing = false) :
    n - w.unpublished = if w.isClosed then n else 65536 * (n / 65536) := by
  cases w with
  | memory w =>
    obtain rfl : n = 0 := h
    rfl
  | cpu w =>
    have hpending := CpuWorker.Batched.pending_eq h
    show n - w.pending.toNat = if decide (w.stage = .leaving ∨ w.stage = .gone) then _ else _
    have hflushing : w.stage.isFlushing = false := hidle
    cases hstage : w.stage <;>
      simp [hstage, CpuStage.isFlushing, CpuStage.pendingOf] at hpending hflushing ⊢
    all_goals omega

theorem Batched.madeProgress_eq (h : w.Batched n) (hidle : w.isFlushing = false) :
    w.madeProgress = decide (65536 ≤ n) := by
  cases w with
  | memory w =>
    obtain rfl : n = 0 := h
    rfl
  | cpu w =>
    have hflushing : w.stage.isFlushing = false := hidle
    show w.progressed = decide (65536 ≤ n)
    simpa [hflushing] using CpuWorker.Batched.progressed_eq h

theorem Batched.unpublished_lt (h : w.Batched n) (hidle : w.isFlushing = false) :
    w.unpublished < 65536 := by
  cases w with
  | memory w => exact Nat.succ_pos _
  | cpu w =>
    have hflushing : w.stage.isFlushing = false := hidle
    show w.pending.toNat < 65536
    rw [CpuWorker.Batched.pending_eq h]
    cases hstage : w.stage with
    | polling | working | closing => exact Nat.mod_lt n (Nat.succ_pos _)
    | leaving | gone => exact Nat.succ_pos _
    | publishing | announcing => simp [hstage, CpuStage.isFlushing] at hflushing

/-- A closed worker has nothing left to publish. -/
theorem Batched.unpublished_eq_zero (h : w.Batched n) (hclosed : w.isClosed = true) :
    w.unpublished = 0 := by
  cases w with
  | memory w => rfl
  | cpu w =>
    have hstage : w.stage = .leaving ∨ w.stage = .gone := of_decide_eq_true hclosed
    show w.pending.toNat = 0
    rw [CpuWorker.Batched.pending_eq h]
    rcases hstage with hstage | hstage <;> rw [hstage] <;> rfl

end Worker

/-! ## All workers -/

namespace Engine

variable {a : Allocator ε σ} {e e' : Engine ε σ} {i j : Nat} {n : ℕ → ℕ} {t : Telemetry}

/-- Whether a move is a step of work of worker `i`. -/
def works (e : Engine ε σ) (i : Nat) : Move → Bool
  | .tick (.work j) => j == i && e.workers[i]?.any Worker.isWorking
  | _ => false

/-- How many steps of work worker `i` makes in a run. -/
def worked (a : Allocator ε σ) (i : Nat) : Engine ε σ → List Move → Nat
  | _, [] => 0
  | e, m :: ms =>
    (if e.works i m then 1 else 0) +
      match e.step a m with
      | none => 0
      | some e => worked a i e ms

theorem worked_cons {m : Move} {ms : List Move} (hstep : e.step a m = some e') :
    e.worked a i (m :: ms) = (if e.works i m then 1 else 0) + e'.worked a i ms := by
  rw [worked, hstep]

/-- A worker that is there after another has entered was there before, or it is the one
that has entered. -/
theorem worker_of_launch (hstep : e.launch? j = some e') {w : Worker σ}
    (hw : e'.workers[i]? = some w) :
    e.workers[i]? = some w ∨ i = e.workers.length ∧ w ∈ e.launching := by
  obtain ⟨w₁, hw₁, rfl⟩ := launch?_eq_some_iff.1 hstep
  rcases Nat.lt_trichotomy i e.workers.length with hlt | rfl | hgt
  · exact .inl (by rwa [List.getElem?_append_left hlt] at hw)
  · obtain rfl : w₁ = w := by simpa using hw
    exact .inr ⟨rfl, List.mem_of_getElem? hw₁⟩
  · rw [List.getElem?_append_right hgt.le, List.getElem?_eq_none (by simp; omega)] at hw
    cases hw

/-- A worker that is there after a step of worker `j` was there before, or it is worker
`j` after its step. -/
theorem worker_of_work (hstep : e.work? a j = some e') {w : Worker σ}
    (hw : e'.workers[i]? = some w) :
    i ≠ j ∧ e.workers[i]? = some w ∨
      i = j ∧ ∃ s w₀, e.workers[i]? = some w₀ ∧ w₀.Moves a e.scene s w := by
  obtain ⟨w₀, s, w', hw₀, hmoves, rfl⟩ := work?_eq_some_iff.1 hstep
  by_cases hi : i = j
  · subst hi
    have hlt : i < e.workers.length := (List.getElem?_eq_some_iff.1 hw₀).1
    obtain rfl : w' = w := by simpa [hlt] using hw
    exact .inr ⟨rfl, s, w₀, hw₀, hmoves⟩
  · exact .inl ⟨hi, by rwa [List.getElem?_set_ne (Ne.symm hi)] at hw⟩

/-- A sum over the workers that have entered, by their numbers. -/
def sumOver (ws : List (Worker σ)) (f : ℕ → Option (Worker σ) → ℕ) : ℕ :=
  ∑ i ∈ Finset.range ws.length, f i ws[i]?

/-- What worker `i`, which has made `n i` steps of work, has published of them. -/
def published (n : ℕ → ℕ) (i : ℕ) (w : Option (Worker σ)) : ℕ :=
  n i - (w.map Worker.unpublished).getD 0

/-- One for a worker that is counted as one that has made progress. -/
def progress (_ : ℕ) (w : Option (Worker σ)) : ℕ :=
  if w.any Worker.madeProgress then 1 else 0

theorem sumOver_append (ws : List (Worker σ)) (w : Worker σ) (f : ℕ → Option (Worker σ) → ℕ) :
    sumOver (ws ++ [w]) f = sumOver ws f + f ws.length (some w) := by
  have hsame : ∀ i ∈ Finset.range ws.length, f i (ws ++ [w])[i]? = f i ws[i]? := fun i hi => by
    rw [List.getElem?_append_left (Finset.mem_range.1 hi)]
  rw [sumOver, List.length_append, List.length_singleton, Finset.sum_range_succ,
    Finset.sum_congr rfl hsame, List.getElem?_concat_length]
  rfl

/-- How a sum changes when one worker does. -/
theorem sumOver_set {ws : List (Worker σ)} {w : Worker σ} (hw : ws[j]? = some w) (w' : Worker σ)
    {f g : ℕ → Option (Worker σ) → ℕ} (h : ∀ i, i ≠ j → g i = f i) :
    ∃ r, sumOver ws f = r + f j (some w) ∧ sumOver (ws.set j w') g = r + g j (some w') := by
  have hlt : j < ws.length := (List.getElem?_eq_some_iff.1 hw).1
  have hmem : j ∈ Finset.range ws.length := Finset.mem_range.2 hlt
  refine ⟨∑ i ∈ (Finset.range ws.length).erase j, f i ws[i]?, ?_, ?_⟩
  · rw [sumOver, ← Finset.sum_erase_add _ _ hmem, hw]
  · rw [sumOver, List.length_set, ← Finset.sum_erase_add _ _ hmem, List.getElem?_set_self hlt]
    congr 1
    refine Finset.sum_congr rfl fun i hi => ?_
    have hi := Finset.ne_of_mem_erase hi
    rw [h i hi, List.getElem?_set_ne hi.symm]

/-- What holds of an engine whose workers have made `n` steps of work each, since the
counters stood at `t`. -/
structure Batching (t : Telemetry) (n : ℕ → ℕ) (e : Engine ε σ) : Prop where
  iterations_eq : e.scene.telemetry.cpuIterations =
    t.cpuIterations + UInt64.ofNat (sumOver e.workers (published n))
  progressed_eq : e.scene.telemetry.cpuProgressed =
    t.cpuProgressed + UInt64.ofNat (sumOver e.workers progress)
  batched : ∀ (i : Nat) (w : Worker σ), e.workers[i]? = some w → w.Batched (n i)
  absent : ∀ i, e.workers.length ≤ i → n i = 0
  new : ∀ w ∈ e.launching, w.IsNew

/-- An engine whose CPU workers have not worked yet. -/
def IsNew (e : Engine ε σ) : Prop :=
  ∀ w ∈ e.workers ++ e.launching, w.IsNew

theorem IsNew.batching (h : e.IsNew) : Batching e.scene.telemetry (fun _ => 0) e where
  iterations_eq := by simp [sumOver, published]
  progressed_eq := by
    have hnone : ∀ i ∈ Finset.range e.workers.length, progress i e.workers[i]? = 0 := by
      intro i hi
      have hlt := Finset.mem_range.1 hi
      have hnew := h e.workers[i] (List.mem_append_left _ (List.getElem_mem hlt))
      simp [progress, List.getElem?_eq_getElem hlt, hnew.madeProgress_eq]
    simp [sumOver, Finset.sum_eq_zero hnone]
  batched i w hw := (h w (List.mem_append_left _ (List.mem_of_getElem? hw))).batched
  absent _ _ := rfl
  new w hw := h w (List.mem_append_right _ hw)

theorem new_of_execute {r : Request} (h : ∀ w ∈ e.launching, w.IsNew) :
    ∀ w ∈ (e.execute r).1.launching, w.IsNew := by
  refine launching_of_execute h ?_ ?_
  · rintro o - w rfl
    exact ⟨⟨rfl, rfl, rfl, .inl rfl⟩, ⟨rfl, rfl, rfl, .inr (.inl rfl)⟩⟩
  · exact fun _ _ _ _ => ⟨trivial, trivial⟩

/-- A worker that enters has published nothing and has not made progress. -/
theorem Batching.launch (h : Batching t n e) (hstep : e.launch? j = some e') :
    Batching t n e' := by
  rcases h with ⟨hiterations, hprogressed, hbatched, habsent, hnew⟩
  obtain ⟨w, hw, rfl⟩ := launch?_eq_some_iff.1 hstep
  have hwnew := hnew w (List.mem_of_getElem? hw)
  constructor
  · have henter : (e.scene.telemetry.enter w.kind).cpuIterations =
        e.scene.telemetry.cpuIterations := by cases w.kind <;> rfl
    show (e.scene.telemetry.enter w.kind).cpuIterations = _
    rw [henter, hiterations, sumOver_append]
    simp [published, habsent _ (Nat.le_refl _)]
  · have henter : (e.scene.telemetry.enter w.kind).cpuProgressed =
        e.scene.telemetry.cpuProgressed := by cases w.kind <;> rfl
    show (e.scene.telemetry.enter w.kind).cpuProgressed = _
    rw [henter, hprogressed, sumOver_append]
    simp [progress, hwnew.madeProgress_eq]
  · intro i w₁ hw₁
    rcases worker_of_launch hstep hw₁ with hsame | ⟨rfl, hentered⟩
    · exact hbatched i w₁ hsame
    · rw [habsent _ (Nat.le_refl _)]
      exact (hnew w₁ hentered).batched
  · intro i hi
    rw [List.length_append] at hi
    exact habsent i (by omega)
  · exact fun w₁ hw₁ => hnew w₁ (List.mem_of_mem_eraseIdx hw₁)

/-- A step of one worker leaves what the others have published as it is. -/
theorem Batching.work (h : Batching t n e) (hstep : e.work? a j = some e') :
    Batching t (fun i => n i + if e.works i (.tick (.work j)) then 1 else 0) e' := by
  rcases h with ⟨hiterations, hprogressed, hbatched, habsent, hnew⟩
  obtain ⟨w, s, w', hw, hmoves, rfl⟩ := work?_eq_some_iff.1 hstep
  have hwbatched := hbatched j w hw
  have hidle : ∀ i, i ≠ j → e.works i (.tick (.work j)) = false := fun i hi => by
    simp [works, Ne.symm hi]
  have hworks : e.works j (.tick (.work j)) = w.isWorking := by simp [works, hw]
  constructor
  · obtain ⟨r, hbefore, hafter⟩ := sumOver_set hw w' (f := published n)
      (g := published fun i => n i + if e.works i (.tick (.work j)) then 1 else 0)
      fun i hi => funext fun o => by simp [published, hidle i hi]
    rw [hbefore] at hiterations
    rw [hafter, published, hworks]
    exact hmoves.cpuIterations_eq hwbatched hiterations
  · obtain ⟨r, hbefore, hafter⟩ := sumOver_set hw w' (f := progress) (g := progress)
      fun i hi => rfl
    rw [hbefore] at hprogressed
    rw [hafter]
    exact hmoves.cpuProgressed_eq hwbatched hprogressed
  · intro i w₁ hw₁
    rcases worker_of_work hstep hw₁ with ⟨hi, hsame⟩ | ⟨rfl, s₁, w₀, hw₀, hmoves₀⟩
    · rw [hidle i hi]
      exact hbatched i w₁ hsame
    · obtain rfl : w = w₀ := Option.some.inj (hw.symm.trans hw₀)
      rw [hworks]
      exact hmoves₀.batched hwbatched
  · intro i hi
    have hlt : j < e.workers.length := (List.getElem?_eq_some_iff.1 hw).1
    rw [List.length_set] at hi
    rw [hidle i (by omega), habsent i hi]
    rfl
  · exact hnew

theorem Batching.step {m : Move} (h : Batching t n e) (hstep : e.step a m = some e') :
    Batching t (fun i => n i + if e.works i m then 1 else 0) e' := by
  cases m with
  | deliver r =>
    rcases h with ⟨hiterations, hprogressed, hbatched, habsent, hnew⟩
    obtain rfl : (e.execute r).1 = e' := by simpa [Engine.step] using hstep
    constructor
    · simpa [works, published] using hiterations
    · simpa [progress] using hprogressed
    · simpa [works] using hbatched
    · simpa [works] using habsent
    · exact new_of_execute hnew
  | tick tick =>
    cases tick with
    | launch j => exact h.launch hstep
    | work j => exact h.work hstep
    | pass time =>
      rcases h with ⟨hiterations, hprogressed, hbatched, habsent, hnew⟩
      obtain rfl : e.pass time = e' := by simpa [Engine.step, Engine.tick] using hstep
      exact ⟨hiterations, hprogressed, hbatched, habsent, hnew⟩

theorem Batching.run {ms : List Move} (h : Batching t n e) (hrun : e.run a ms = some e') :
    Batching t (fun i => n i + e.worked a i ms) e' := by
  induction ms generalizing e n with
  | nil =>
    obtain rfl : e = e' := by simpa [Engine.run] using hrun
    exact h
  | cons m ms ih =>
    obtain ⟨e₁, hstep, hrest⟩ := run_cons_eq_some_iff.1 hrun
    have hcount : (fun i => n i + e.worked a i (m :: ms)) =
        fun i => n i + (if e.works i m then 1 else 0) + e₁.worked a i ms :=
      funext fun i => by rw [worked_cons hstep, Nat.add_assoc]
    rw [hcount]
    exact ih (h.step hstep) hrest

/-! ## A first look that says no -/

/-- Whether worker `i` has done nothing yet, wherever it is. -/
structure IsNewAt (i : Nat) (e : Engine ε σ) : Prop where
  launching : ∀ w ∈ e.launching, w.IsNew
  entered : ∀ w, e.workers[i]? = some w → w.IsNew

theorem IsNewAt.works_eq_false (h : IsNewAt i e) (m : Move) : e.works i m = false := by
  unfold works
  split
  · cases hw : e.workers[i]? with
    | none => simp
    | some w => simp [(h.entered w hw).isWorking_eq]
  · rfl

/-- Worker `i` does nothing before its first look. -/
theorem IsNewAt.step {m : Move} (h : IsNewAt i e) (hstep : e.step a m = some e')
    (hlook : e.isLook i m = false) : IsNewAt i e' := by
  cases m with
  | deliver r =>
    obtain rfl : (e.execute r).1 = e' := by simpa [Engine.step] using hstep
    exact ⟨new_of_execute h.launching, by simpa using h.entered⟩
  | tick tick =>
    cases tick with
    | launch j =>
      constructor
      · obtain ⟨w, -, rfl⟩ := launch?_eq_some_iff.1 hstep
        exact fun w₁ hw₁ => h.launching w₁ (List.mem_of_mem_eraseIdx hw₁)
      · intro w hw
        rcases worker_of_launch hstep hw with hsame | ⟨-, hentered⟩
        · exact h.entered w hsame
        · exact h.launching w hentered
    | work j =>
      constructor
      · obtain ⟨w, s, w', -, -, rfl⟩ := work?_eq_some_iff.1 hstep
        exact h.launching
      · intro w hw
        rcases worker_of_work hstep hw with ⟨-, hsame⟩ | ⟨rfl, s, w₀, hw₀, hmoves⟩
        · exact h.entered w hsame
        · cases hmoves with
          | memory hmoves => trivial
          | @cpu w₀ w hmoves =>
            obtain ⟨hload, hpending, hprogressed, hstage | hstage | hstage⟩ := h.entered _ hw₀
            · -- with a thread, its next step is its first look
              simp [isLook, hw₀, Worker.looks, hstage] at hlook
            · cases hmoves with
              | leave => exact ⟨hload, hpending, hprogressed, .inr (.inr rfl)⟩
              | goOn h | dismiss h | work h | publish h | announce h | close h => simp_all
            · cases hmoves <;> simp_all
    | pass time =>
      obtain rfl : e.pass time = e' := by simpa [Engine.step, Engine.tick] using hstep
      exact ⟨h.launching, h.entered⟩

/-- A worker that has left its loop works no more. -/
theorem worked_eq_zero_of_hasLeft {ms : List Move} {w : Worker σ}
    (hw : e.workers[i]? = some w) (hleft : w.hasLeft = true) (hrun : e.run a ms = some e') :
    e.worked a i ms = 0 := by
  induction ms generalizing e w with
  | nil => rfl
  | cons m ms ih =>
    obtain ⟨e₁, hstep, hrest⟩ := run_cons_eq_some_iff.1 hrun
    have hlook : e.isLook i m = false := by
      rw [Bool.eq_false_iff, Ne, isLook_eq_true_iff hw, Worker.looks_eq_false hleft]
      simp
    obtain ⟨w₁, hw₁, -, hkeeps, -⟩ := worker_of_not_look hstep hw hlook
    have hworking : w.isWorking = false := by
      cases w with
      | cpu w => cases hs : w.stage <;> simp_all [Worker.isWorking, Worker.hasLeft, CpuStage.isPast]
      | memory w => rfl
    have hworks : e.works i m = false := by
      unfold works
      split
      · simp [hw, hworking]
      · rfl
    rw [worked_cons hstep, hworks, ih hw₁ (hkeeps hleft) hrest]
    rfl

/-- A worker whose first look says no makes no step of work. -/
theorem worked_eq_zero_of_firstLook {ms before : List Move} {p : Engine ε σ} {w : Worker σ}
    (hnew : IsNewAt i e) (hrun : e.run a ms = some e')
    (hfirst : e.firstLook? a i ms = some (before, p)) (hw : p.workers[i]? = some w)
    (hoff : p.scene.goesOn w.deadline = false) : e.worked a i ms = 0 := by
  induction ms generalizing e before with
  | nil => rfl
  | cons m ms ih =>
    obtain ⟨e₁, hstep, hrest⟩ := run_cons_eq_some_iff.1 hrun
    rw [worked_cons hstep, hnew.works_eq_false]
    simp only [Bool.false_eq_true, if_false, Nat.zero_add]
    cases hlook : e.isLook i m with
    | true =>
      rw [firstLook?_cons_of_look hlook] at hfirst
      obtain rfl : e = p := by simpa using congrArg (Option.map Prod.snd) hfirst
      obtain ⟨w₁, hw₁, hleft, -⟩ := worker_of_look hstep hw hlook hoff
      exact worked_eq_zero_of_hasLeft hw₁ hleft hrest
    | false =>
      rw [firstLook?_cons_of_not_look hlook hstep, Option.map_eq_some_iff] at hfirst
      obtain ⟨⟨later, q⟩, hlater, heq⟩ := hfirst
      obtain rfl : q = p := congrArg Prod.snd heq
      exact ih (hnew.step hstep hlook) hrest hlater

/-! ## Plain counting -/

theorem sumOver_eq_sum (ws : List (Worker σ)) (f : ℕ → Option (Worker σ) → ℕ) :
    sumOver ws f = ∑ i : Fin ws.length, f i (some ws[i]) := by
  rw [sumOver, Finset.sum_range]
  exact Finset.sum_congr rfl fun i _ => by rw [List.getElem?_eq_getElem i.isLt]; rfl

/-- What the counters come to, from where they stood at `t`, for workers that have made
`n i` steps of work each. -/
structure CountsPlainly (t : Telemetry) (n : ℕ → ℕ) (e : Engine ε σ) : Prop where
  load_eq : ∀ (i : Nat) (w : CpuWorker), e.workers[i]? = some (.cpu w) →
    w.load = FibonacciLoad.steps (n i) {}
  /-- Every step is counted once: either it is published, or its worker has it pending. -/
  published_eq : e.scene.telemetry.cpuIterations =
    t.cpuIterations + UInt64.ofNat (∑ i : Fin e.workers.length, (n i - e.workers[i].unpublished))
  unpublished_le : ∀ i : Fin e.workers.length, e.workers[i].unpublished ≤ n i
  /-- The counters never show a worker's progress without its batch. -/
  progress_le : ∑ i : Fin e.workers.length, (n i - e.workers[i].unpublished) < 2 ^ 64 →
    65536 * (e.scene.telemetry.cpuProgressed - t.cpuProgressed).toNat ≤
      (e.scene.telemetry.cpuIterations - t.cpuIterations).toNat
  /-- Between two batches a running worker has published its full batches, and a closed
  one all that it worked. -/
  iterations_eq : (∀ w ∈ e.workers, w.isFlushing = false) →
    e.scene.telemetry.cpuIterations = t.cpuIterations +
      UInt64.ofNat (∑ i : Fin e.workers.length,
        if e.workers[i].isClosed then n i else 65536 * (n i / 65536))
  progressed_eq : (∀ w ∈ e.workers, w.isFlushing = false) →
    e.scene.telemetry.cpuProgressed = t.cpuProgressed +
      UInt64.ofNat (Finset.univ.filter fun i : Fin e.workers.length => 65536 ≤ n i).card
  unpublished_lt : (∀ w ∈ e.workers, w.isFlushing = false) →
    ∀ w ∈ e.workers, w.unpublished < 65536
  closed_eq : (∀ w ∈ e.workers, w.isClosed = true) →
    e.scene.telemetry.cpuIterations =
      t.cpuIterations + UInt64.ofNat (∑ i : Fin e.workers.length, n i)

theorem Batching.countsPlainly (h : Batching t n e) : CountsPlainly t n e := by
  have hbatched : ∀ i : Fin e.workers.length, e.workers[i].Batched (n i) := fun i =>
    h.batched i e.workers[i] (List.getElem?_eq_getElem i.isLt)
  have hiterations : e.scene.telemetry.cpuIterations = t.cpuIterations +
      UInt64.ofNat (∑ i : Fin e.workers.length, (n i - e.workers[i].unpublished)) := by
    rw [h.iterations_eq, sumOver_eq_sum]
    rfl
  have hprogressed : e.scene.telemetry.cpuProgressed = t.cpuProgressed +
      UInt64.ofNat (∑ i : Fin e.workers.length, if e.workers[i].madeProgress then 1 else 0) := by
    rw [h.progressed_eq, sumOver_eq_sum]
    rfl
  constructor
  · exact fun i w hw => CpuWorker.Batched.load_eq (h.batched i _ hw)
  · exact hiterations
  · exact fun i => (hbatched i).unpublished_le
  · intro hfew
    have hle : 65536 * ∑ i : Fin e.workers.length, (if e.workers[i].madeProgress then 1 else 0) ≤
        ∑ i : Fin e.workers.length, (n i - e.workers[i].unpublished) := by
      rw [Finset.mul_sum]
      refine Finset.sum_le_sum fun i _ => ?_
      cases hdone : e.workers[i].madeProgress with
      | true => simpa using (hbatched i).progress_le hdone
      | false => simp
    -- what is counted in the smaller counter does not wrap either
    have hsize : UInt64.size = 2 ^ 64 := rfl
    rw [hiterations, hprogressed, UInt64.add_comm t.cpuProgressed, UInt64.add_sub_cancel,
      UInt64.add_comm t.cpuIterations, UInt64.add_sub_cancel, UInt64.toNat_ofNat_of_lt' hfew,
      UInt64.toNat_ofNat_of_lt' (by omega)]
    exact hle
  · intro hidle
    rw [hiterations]
    congr 3
    exact funext fun i => (hbatched i).published_eq (hidle _ (List.getElem_mem _))
  · intro hidle
    rw [hprogressed, Finset.card_filter]
    congr 3
    funext i
    rw [(hbatched i).madeProgress_eq (hidle _ (List.getElem_mem _))]
    simp
  · intro hidle w hw
    obtain ⟨i, hi, rfl⟩ := List.mem_iff_getElem.1 hw
    exact (hbatched ⟨i, hi⟩).unpublished_lt (hidle _ hw)
  · intro hclosed
    rw [hiterations]
    congr 3
    funext i
    rw [(hbatched i).unpublished_eq_zero (hclosed _ (List.getElem_mem _)), Nat.sub_zero]

/-- Counting in batches comes to plain counting, however many workers share the counters
and however their steps interleave.  A worker whose first look says no has no part in
it. -/
theorem batches_of_run {ms : List Move} (hnew : e.IsNew) (hrun : e.run a ms = some e') :
    CountsPlainly e.scene.telemetry (fun i => e.worked a i ms) e' ∧
    ∀ i before p w, e.firstLook? a i ms = some (before, p) → p.workers[i]? = some w →
      p.scene.goesOn w.deadline = false →
      e.worked a i ms = 0 ∧
        ∀ w', e'.workers[i]? = some w' → w'.unpublished = 0 ∧ w'.madeProgress = false := by
  have hbatching : Batching e.scene.telemetry (fun i => e.worked a i ms) e' := by
    simpa using hnew.batching.run hrun
  refine ⟨hbatching.countsPlainly, fun i before p w hfirst hw hoff => ?_⟩
  have hat : IsNewAt i e :=
    ⟨fun w hw => hnew w (List.mem_append_right _ hw),
      fun w hw => hnew w (List.mem_append_left _ (List.mem_of_getElem? hw))⟩
  have hzero := worked_eq_zero_of_firstLook hat hrun hfirst hw hoff
  refine ⟨hzero, fun w' hw' => ?_⟩
  have hbatched : w'.Batched 0 := by simpa [hzero] using hbatching.batched i w' hw'
  refine ⟨Nat.le_zero.1 hbatched.unpublished_le, ?_⟩
  cases hdone : w'.madeProgress with
  | false => rfl
  | true => simpa using hbatched.progress_le hdone

/-- Two workers start, the first makes one step of work, and after a stop both end; the
second looks for the first time then. -/
def relay : List Move :=
  [.deliver (.cpu { threads := 2 }), .tick (.launch 0), .tick (.launch 0), .tick (.work 0),
    .tick (.work 0), .deliver .stop, .tick (.work 1), .tick (.work 0), .tick (.work 0),
    .tick (.work 1)]

/-- Of the two workers the first contributes its one step, and the second nothing. -/
theorem batches_of_relay :
    ∃ e', (Session.onBudget ⟨none, 0⟩).engine.run .budgeted relay = some e' ∧
      e'.scene.telemetry.cpuIterations = 1 ∧
      (Session.onBudget ⟨none, 0⟩).engine.worked .budgeted 0 relay = 1 ∧
      (Session.onBudget ⟨none, 0⟩).engine.worked .budgeted 1 relay = 0 := by
  have hnew : (Session.onBudget ⟨none, 0⟩).engine.IsNew := fun w hw => nomatch hw
  have hrun := (Option.some_get
    (x := (Session.onBudget ⟨none, 0⟩).engine.run .budgeted relay) rfl).symm
  obtain ⟨hcounts, hdismissed⟩ := batches_of_run hnew hrun
  refine ⟨_, hrun, ?_, rfl, ?_⟩
  · exact hcounts.closed_eq (by decide)
  · have hfirst := (Option.some_get
      (x := (Session.onBudget ⟨none, 0⟩).engine.firstLook? .budgeted 1 relay) rfl).symm
    exact (hdismissed 1 _ _ _ hfirst rfl rfl).1

end Engine

end ResourceFaults
