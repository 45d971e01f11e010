import Mathlib
import ResourceFaults.Proofs.Engine.Totals

/-!
# What the counters say about the workers

`Engine.balanced_of_reached`: in every state that an engine can reach from its
start, the counters are what the states of the workers add up to, as numbers and
not only modulo `2 ^ 64`, as long as the totals fit into a word on the way.

The proof reads the books of `Engine.Booked`.  Each clause of `Engine.Balanced`
compares two shares of a single worker, and the comparison is summed up over all
workers.
-/

namespace ResourceFaults

variable {ε σ : Type}

/-! ## Sums over workers -/

/-- A sum of ones is a count. -/
theorem sum_map_eq_countP {α : Type} {l : List α} {f : α → Nat} {p : α → Bool}
    (h : ∀ x, f x = if p x then 1 else 0) : (l.map f).sum = l.countP p := by
  induction l with
  | nil => rfl
  | cons x l ih => rw [List.map_cons, List.sum_cons, List.countP_cons, ih, h x, Nat.add_comm]

/-- Entries that add nothing can be left out of a sum. -/
theorem sum_map_filter {α : Type} {l : List α} {f : α → Nat} {p : α → Bool}
    (h : ∀ x ∈ l, p x = false → f x = 0) : ((l.filter p).map f).sum = (l.map f).sum := by
  induction l with
  | nil => rfl
  | cons x l ih =>
    have ih := ih fun y hy => h y (List.mem_cons_of_mem x hy)
    cases hp : p x with
    | true => simp [hp, ih]
    | false => simp [hp, ih, h x List.mem_cons_self hp]

/-! ## What a single worker says -/

namespace Worker

/-- Whether a worker of a kind holds its guard. -/
def holdsGuard (kind : WorkerKind) (w : Worker σ) : Bool :=
  w.kind = kind && !w.isGone

/-- Whether a worker is alive and is to keep its blocks. -/
def keepsBlocks : Worker σ → Bool
  | cpu _ => false
  | memory w => w.plan.keep && w.stage != .gone

/-- Whether the next step of a worker is to drop its guard. -/
def isLeaving : Worker σ → Bool
  | cpu w => w.stage = .leaving
  | memory w => w.stage = .leaving

theorem share_cpuActive (w : Worker σ) :
    w.share .cpuActive = if w.holdsGuard .cpu then 1 else 0 := by
  cases w with
  | cpu w => cases hs : w.stage <;> simp [share, CpuWorker.share, holdsGuard, kind, isGone, hs]
  | memory w => simp [share, MemoryWorker.share, holdsGuard, kind]

theorem share_memActive (w : Worker σ) :
    w.share .memActive = if w.holdsGuard .memory then 1 else 0 := by
  cases w with
  | cpu w => simp [share, CpuWorker.share, holdsGuard, kind]
  | memory w =>
    cases hs : w.stage <;> simp [share, MemoryWorker.share, holdsGuard, kind, isGone, hs]

theorem share_cpuLaunched (w : Worker σ) :
    w.share .cpuLaunched = if decide (w.kind = .cpu) then 1 else 0 := by
  cases w <;> rfl

theorem share_memLaunched (w : Worker σ) :
    w.share .memLaunched = if decide (w.kind = .memory) then 1 else 0 := by
  cases w <;> rfl

/-- What is answered is attempted, and at most one attempt of a worker that holds
its guard is open. -/
theorem share_attempts {w : Worker σ} (h : w.Sound) :
    w.share .successes + w.share .failures ≤ w.share .attempts ∧
      w.share .attempts ≤ w.share .successes + w.share .failures + w.share .memActive := by
  cases w with
  | cpu w => simp [share, CpuWorker.share]
  | memory w =>
    have hattempts := h.attempts_eq
    simp only [share, MemoryWorker.share]
    cases hs : w.stage <;> simp_all [MemoryStage.isOpen]

theorem share_failures_le (w : Worker σ) : w.share .failures ≤ w.share .memLaunched := by
  cases w with
  | cpu w => exact Nat.le_refl _
  | memory w =>
    simp only [share, MemoryWorker.share]
    split <;> simp

/-- Only a worker that is alive and keeps its blocks has any. -/
theorem retained_eq_zero {w : Worker σ} (h : w.Sound) (hnot : w.keepsBlocks = false) :
    w.share .retainedBlocks = 0 ∧ w.share .retainedBytes = 0 := by
  cases w with
  | cpu w => exact ⟨rfl, rfl⟩
  | memory w =>
    have hzero : w.retained = 0 := by
      simp only [keepsBlocks, Bool.and_eq_false_iff, bne_eq_false_iff_eq] at hnot
      rcases hnot with hkeep | hgone
      · exact h.retained_of_not_keep hkeep
      · exact h.retained_of_done (.inr hgone)
    simp [share, MemoryWorker.share, hzero]

theorem holdsGuard_of_keepsBlocks {w : Worker σ} (h : w.keepsBlocks = true) :
    w.holdsGuard .memory = true := by
  cases w with
  | cpu w => cases h
  | memory w => simp_all [keepsBlocks, holdsGuard, kind, isGone]

theorem holdsGuard_of_isLeaving {w : Worker σ} (h : w.isLeaving = true) :
    w.holdsGuard w.kind = true := by
  cases w <;> simp_all [isLeaving, holdsGuard, kind, isGone]

end Worker

/-! ## The counters as numbers -/

/-- The number of active workers of a kind. -/
def Telemetry.active (t : Telemetry) : WorkerKind → Nat
  | .cpu => t.cpuActive.toNat
  | .memory => t.memActive.toNat

namespace Engine

variable {a : Allocator ε σ} {e : Engine ε σ}

/-- Whether every total fits into a word. -/
def Fits (e : Engine ε σ) : Prop :=
  ∀ g, e.total g < 2 ^ 64

/-- What the counters say about the workers. -/
structure Balanced (e : Engine ε σ) : Prop where
  /-- The active workers are those that hold their guard. -/
  cpuActive : e.scene.telemetry.cpuActive.toNat = e.workers.countP (·.holdsGuard .cpu)
  memActive : e.scene.telemetry.memActive.toNat = e.workers.countP (·.holdsGuard .memory)
  /-- The launched workers are those that have ever entered. -/
  cpuLaunched : e.scene.telemetry.cpuLaunched.toNat = e.workers.countP (·.kind = .cpu)
  memLaunched : e.scene.telemetry.memLaunched.toNat = e.workers.countP (·.kind = .memory)
  /-- Attempts are answered, or open with an active worker. -/
  answered_le : e.scene.telemetry.allocSuccesses.toNat + e.scene.telemetry.allocFailures.toNat ≤
    e.scene.telemetry.allocAttempts.toNat
  attempts_le : e.scene.telemetry.allocAttempts.toNat ≤
    e.scene.telemetry.allocSuccesses.toNat + e.scene.telemetry.allocFailures.toNat +
      e.scene.telemetry.memActive.toNat
  /-- A worker fails at most once. -/
  failures_le : e.scene.telemetry.allocFailures.toNat ≤ e.scene.telemetry.memLaunched.toNat
  /-- What is retained is what the living workers that keep their blocks have. -/
  retainedBlocks : e.scene.telemetry.retainedBlocks.toNat =
    ((e.workers.filter Worker.keepsBlocks).map (·.share .retainedBlocks)).sum
  retainedBytes : e.scene.telemetry.retainedBytes.toNat =
    ((e.workers.filter Worker.keepsBlocks).map (·.share .retainedBytes)).sum
  /-- A worker that is about to drop its guard is counted as active. -/
  leave_covered : ∀ w ∈ e.workers, w.isLeaving = true →
    1 ≤ e.scene.telemetry.active w.kind
  /-- What a worker is about to let go is counted as retained. -/
  release_covered : ∀ w, .memory w ∈ e.workers → w.stage = .releasing →
    (UInt64.ofNat w.retained).toNat ≤ e.scene.telemetry.retainedBlocks.toNat ∧
      w.releasedBytes.toNat ≤ e.scene.telemetry.retainedBytes.toNat
  /-- Blocks are retained only while a memory worker is active. -/
  active_of_retained : 0 < e.scene.telemetry.retainedBlocks.toNat →
    0 < e.scene.telemetry.memActive.toNat
  /-- While no memory worker is active nothing is retained and no attempt is open. -/
  settled_of_idle : e.scene.telemetry.memActive = 0 →
    e.scene.telemetry.retainedBlocks = 0 ∧ e.scene.telemetry.retainedBytes = 0 ∧
      e.scene.telemetry.allocAttempts.toNat =
        e.scene.telemetry.allocSuccesses.toNat + e.scene.telemetry.allocFailures.toNat

/-- The share of one worker is part of the total. -/
theorem share_le_total {w : Worker σ} (hw : w ∈ e.workers) (g : Gauge) : w.share g ≤ e.total g :=
  List.single_le_sum (fun _ _ => Nat.zero_le _) _ (List.mem_map_of_mem hw)

namespace Booked

variable (h : e.Booked) (hfits : e.Fits)

include h hfits

theorem toNat_gauge (g : Gauge) : (e.scene.telemetry.gauge g).toNat = e.total g := by
  rw [h.gauge_eq g]
  exact UInt64.toNat_ofNat_of_lt' (hfits g)

theorem toNat_memActive :
    e.scene.telemetry.memActive.toNat = e.workers.countP (·.holdsGuard .memory) :=
  (h.toNat_gauge hfits .memActive).trans (sum_map_eq_countP Worker.share_memActive)

theorem toNat_retainedBlocks :
    e.scene.telemetry.retainedBlocks.toNat =
      ((e.workers.filter Worker.keepsBlocks).map (·.share .retainedBlocks)).sum := by
  rw [sum_map_filter fun w hw hnot => (Worker.retained_eq_zero (h.sound w hw) hnot).1]
  exact h.toNat_gauge hfits .retainedBlocks

theorem toNat_retainedBytes :
    e.scene.telemetry.retainedBytes.toNat =
      ((e.workers.filter Worker.keepsBlocks).map (·.share .retainedBytes)).sum := by
  rw [sum_map_filter fun w hw hnot => (Worker.retained_eq_zero (h.sound w hw) hnot).2]
  exact h.toNat_gauge hfits .retainedBytes

theorem answered_le :
    e.scene.telemetry.allocSuccesses.toNat + e.scene.telemetry.allocFailures.toNat ≤
      e.scene.telemetry.allocAttempts.toNat := by
  have hsum := List.sum_le_sum fun w hw => (Worker.share_attempts (h.sound w hw)).1
  rw [List.sum_map_add] at hsum
  calc
    _ = e.total .successes + e.total .failures :=
      congrArg₂ (· + ·) (h.toNat_gauge hfits .successes) (h.toNat_gauge hfits .failures)
    _ ≤ e.total .attempts := hsum
    _ = _ := (h.toNat_gauge hfits .attempts).symm

theorem attempts_le :
    e.scene.telemetry.allocAttempts.toNat ≤
      e.scene.telemetry.allocSuccesses.toNat + e.scene.telemetry.allocFailures.toNat +
        e.scene.telemetry.memActive.toNat := by
  have hsum := List.sum_le_sum fun w hw => (Worker.share_attempts (h.sound w hw)).2
  rw [List.sum_map_add, List.sum_map_add] at hsum
  calc
    _ = e.total .attempts := h.toNat_gauge hfits .attempts
    _ ≤ e.total .successes + e.total .failures + e.total .memActive := hsum
    _ = _ :=
      (congrArg₂ (· + ·)
        (congrArg₂ (· + ·) (h.toNat_gauge hfits .successes) (h.toNat_gauge hfits .failures))
        (h.toNat_gauge hfits .memActive)).symm

theorem failures_le :
    e.scene.telemetry.allocFailures.toNat ≤ e.scene.telemetry.memLaunched.toNat := by
  have hsum := List.sum_le_sum fun w (_ : w ∈ e.workers) => w.share_failures_le
  calc
    _ = e.total .failures := h.toNat_gauge hfits .failures
    _ ≤ e.total .memLaunched := hsum
    _ = _ := (h.toNat_gauge hfits .memLaunched).symm

/-- Without an active memory worker nobody keeps blocks. -/
theorem filter_keepsBlocks (hzero : e.scene.telemetry.memActive = 0) :
    e.workers.filter Worker.keepsBlocks = [] := by
  have hcount := h.toNat_memActive hfits
  rw [hzero] at hcount
  have hnone := List.countP_eq_zero.1 hcount.symm
  rw [List.filter_eq_nil_iff]
  exact fun w hw hkeeps => hnone w hw (Worker.holdsGuard_of_keepsBlocks hkeeps)

theorem leave_covered {w : Worker σ} (hw : w ∈ e.workers) (hleaving : w.isLeaving = true) :
    1 ≤ e.scene.telemetry.active w.kind := by
  have hpos : 0 < e.workers.countP (·.holdsGuard w.kind) :=
    List.countP_pos_iff.2 ⟨w, hw, Worker.holdsGuard_of_isLeaving hleaving⟩
  have hcpu := (h.toNat_gauge hfits .cpuActive).trans (sum_map_eq_countP Worker.share_cpuActive)
  cases hkind : w.kind with
  | cpu =>
    rw [hkind, ← hcpu] at hpos
    exact hpos
  | memory =>
    rw [hkind, ← h.toNat_memActive hfits] at hpos
    exact hpos

theorem release_covered {w : MemoryWorker σ} (hw : .memory w ∈ e.workers) :
    (UInt64.ofNat w.retained).toNat ≤ e.scene.telemetry.retainedBlocks.toNat ∧
      w.releasedBytes.toNat ≤ e.scene.telemetry.retainedBytes.toNat := by
  have hblocks : w.retained ≤ e.total .retainedBlocks := share_le_total hw .retainedBlocks
  have hbytes : w.retained * w.plan.blockBytes.toNat ≤ e.total .retainedBytes :=
    share_le_total hw .retainedBytes
  have hfitsBlocks := Nat.lt_of_le_of_lt hblocks (hfits .retainedBlocks)
  have hfitsBytes := Nat.lt_of_le_of_lt hbytes (hfits .retainedBytes)
  rw [MemoryWorker.releasedBytes_eq hfitsBytes, UInt64.toNat_ofNat_of_lt' hfitsBlocks,
    UInt64.toNat_ofNat_of_lt' hfitsBytes]
  exact ⟨hblocks.trans (h.toNat_gauge hfits .retainedBlocks).ge,
    hbytes.trans (h.toNat_gauge hfits .retainedBytes).ge⟩

/-- The books of an engine whose totals fit into words are balanced. -/
theorem balanced : e.Balanced where
  cpuActive := (h.toNat_gauge hfits .cpuActive).trans (sum_map_eq_countP Worker.share_cpuActive)
  memActive := h.toNat_memActive hfits
  cpuLaunched :=
    (h.toNat_gauge hfits .cpuLaunched).trans (sum_map_eq_countP Worker.share_cpuLaunched)
  memLaunched :=
    (h.toNat_gauge hfits .memLaunched).trans (sum_map_eq_countP Worker.share_memLaunched)
  answered_le := h.answered_le hfits
  attempts_le := h.attempts_le hfits
  failures_le := h.failures_le hfits
  retainedBlocks := h.toNat_retainedBlocks hfits
  retainedBytes := h.toNat_retainedBytes hfits
  leave_covered _ hw hleaving := h.leave_covered hfits hw hleaving
  release_covered _ hw _ := h.release_covered hfits hw
  active_of_retained hpos := by
    by_contra hnot
    have hzero : e.scene.telemetry.memActive = 0 := UInt64.toNat_inj.1 (by simpa using hnot)
    rw [h.toNat_retainedBlocks hfits, h.filter_keepsBlocks hfits hzero] at hpos
    exact absurd hpos (Nat.lt_irrefl 0)
  settled_of_idle hzero := by
    have hblocks := h.toNat_retainedBlocks hfits
    have hbytes := h.toNat_retainedBytes hfits
    rw [h.filter_keepsBlocks hfits hzero] at hblocks hbytes
    refine ⟨UInt64.toNat_inj.1 hblocks, UInt64.toNat_inj.1 hbytes, ?_⟩
    have hle := h.attempts_le hfits
    rw [hzero] at hle
    exact Nat.le_antisymm hle (h.answered_le hfits)

end Booked

/-- In every state that an engine reaches from its start, through states whose
totals fit into words, the counters say what the workers do. -/
theorem balanced_of_reached {now : Nanos} {environment : ε} {template : σ}
    {shortages : List (Option Shortage)}
    (h : Reached a Fits (atStart now environment template shortages) e) : e.Balanced := by
  refine Booked.balanced (h.invariant (booked_atStart _ _ _ _) ?_) h.holds
  intro e m e' hfits hbooked hstep
  refine hbooked.step (fun w hw => ?_) hstep
  exact Nat.lt_of_le_of_lt (share_le_total hw .retainedBytes) (hfits .retainedBytes)

/-- A worker that keeps its blocks is at its second attempt: the counters say so. -/
theorem balanced_at_second_attempt :
    ∃ e : Engine (List JournalEntry) BudgetState,
      Reached .budgeted Fits (atStart 0 [] { budget := ⟨some 1, 0⟩ }) e ∧
        e.scene.telemetry.allocAttempts = 2 ∧ e.scene.telemetry.allocSuccesses = 1 ∧
        e.scene.telemetry.retainedBlocks = 1 ∧ e.scene.telemetry.memActive = 1 ∧ e.Balanced := by
  have hstart : Reached Allocator.budgeted Fits (atStart 0 [] { budget := ⟨some 1, 0⟩ }) _ :=
    .start (by intro g; cases g <;> decide)
  have hmem := Reached.step (.deliver (.mem { sleepMs := 0, keep := true })) hstart rfl
    (by intro g; cases g <;> decide)
  have henter := hmem.step (.tick (.launch 0)) rfl (by intro g; cases g <;> decide)
  have hgo := henter.step (.tick (.work 0)) rfl (by intro g; cases g <;> decide)
  have hattempt := hgo.step (.tick (.work 0)) rfl (by intro g; cases g <;> decide)
  have hrequest := hattempt.step (.tick (.work 0)) rfl (by intro g; cases g <;> decide)
  have hgrant := hrequest.step (.tick (.work 0)) rfl (by intro g; cases g <;> decide)
  have hretain := hgrant.step (.tick (.work 0)) rfl (by intro g; cases g <;> decide)
  have hpause := hretain.step (.tick (.work 0)) rfl (by intro g; cases g <;> decide)
  have hagain := hpause.step (.tick (.work 0)) rfl (by intro g; cases g <;> decide)
  have hsecond := hagain.step (.tick (.work 0)) rfl (by intro g; cases g <;> decide)
  exact ⟨_, hsecond, rfl, rfl, rfl, rfl, balanced_of_reached hsecond⟩

end Engine

end ResourceFaults
