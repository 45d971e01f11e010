import Mathlib
import ResourceFaults.Proofs.Engine.Runs
import ResourceFaults.Proofs.Engine.Starts

/-!
# Counters as sums over workers

Every worker adds to the same counters.  `Worker.share` is what one worker has
put into each of them, read off its own state, and `Engine.total` is the sum of
the shares of all workers that have entered.

* `MemoryWorker.Sound` is what a memory worker keeps to by itself: an attempt is
  answered before the next one, a worker fails at most once, and it lets its
  blocks go before it drops its guard.
* `Worker.Moves.gauge_eq` says that a step changes a counter by as much as it
  changes the share of the worker.  It holds in words of 64 bits, so it needs no
  bound on the counters; only the blocks that are let go at once must fit.
* `Engine.Booked` carries this to all workers: every counter is the total of the
  shares.  It is kept by every move (`Engine.Booked.step`).
-/

namespace ResourceFaults

variable {ε σ : Type}

/-! ## Shares -/

/-- The counters to which the workers' own states add up. -/
inductive Gauge where
  | cpuActive
  | cpuLaunched
  | memActive
  | memLaunched
  | attempts
  | successes
  | failures
  | retainedBlocks
  | retainedBytes

/-- What a counter shows. -/
def Telemetry.gauge (t : Telemetry) : Gauge → UInt64
  | .cpuActive => t.cpuActive
  | .cpuLaunched => t.cpuLaunched
  | .memActive => t.memActive
  | .memLaunched => t.memLaunched
  | .attempts => t.allocAttempts
  | .successes => t.allocSuccesses
  | .failures => t.allocFailures
  | .retainedBlocks => t.retainedBlocks
  | .retainedBytes => t.retainedBytes

/-- What a CPU worker that has entered has put into a counter. -/
def CpuWorker.share (w : CpuWorker) : Gauge → Nat
  | .cpuActive => if w.stage = .gone then 0 else 1
  | .cpuLaunched => 1
  | _ => 0

/-- What a memory worker that has entered has put into a counter. -/
def MemoryWorker.share (w : MemoryWorker σ) : Gauge → Nat
  | .memActive => if w.stage = .gone then 0 else 1
  | .memLaunched => 1
  | .attempts => w.summary.attempts
  | .successes => w.summary.allocated
  | .failures => if w.summary.degraded then 1 else 0
  | .retainedBlocks => w.retained
  | .retainedBytes => w.retained * w.plan.blockBytes.toNat
  | .cpuActive | .cpuLaunched => 0

/-- What a worker that has entered has put into a counter. -/
def Worker.share : Worker σ → Gauge → Nat
  | .cpu w => w.share
  | .memory w => w.share

/-- The sum of the shares of all workers that have entered. -/
def Engine.total (e : Engine ε σ) (g : Gauge) : Nat :=
  (e.workers.map (·.share g)).sum

/-! ## What a memory worker keeps to by itself -/

/-- The stages from an attempt up to the record of its outcome. -/
def MemoryStage.isOpen : MemoryStage → Bool
  | requesting | granted | refused => true
  | _ => false

/-- The stages of a loop body that takes a block. -/
def MemoryStage.isTaking : MemoryStage → Bool
  | attempting | requesting | granted | retaining | refused => true
  | _ => false

/-- What holds of a memory worker at every step. -/
structure MemoryWorker.Sound (w : MemoryWorker σ) : Prop where
  /-- An attempt is a success, the failure, or still open. -/
  attempts_eq : w.summary.attempts =
    w.summary.allocated + (if w.summary.degraded then 1 else 0) +
      (if w.stage.isOpen then 1 else 0)
  /-- After the failure no block is taken. -/
  not_degraded : w.stage.isTaking = true → w.summary.degraded = false
  /-- Blocks are kept only by a worker that is to keep them. -/
  keep_of_retaining : w.stage = .retaining → w.plan.keep = true
  retained_of_not_keep : w.plan.keep = false → w.retained = 0
  /-- The blocks are let go before the guard is dropped. -/
  retained_of_done : w.stage = .leaving ∨ w.stage = .gone → w.retained = 0

/-- What holds of a worker at every step. -/
def Worker.Sound : Worker σ → Prop
  | .cpu _ => True
  | .memory w => w.Sound

/-- A worker that is yet to enter, with a thread or without one. -/
def Worker.IsFresh : Worker σ → Prop
  | .cpu w => w.stage = .polling ∨ w.stage = .leaving
  | .memory w => (w.stage = .polling ∨ w.stage = .leaving) ∧ w.retained = 0 ∧ w.summary = {}

theorem Worker.IsFresh.sound {w : Worker σ} (h : w.IsFresh) : w.Sound := by
  cases w with
  | cpu w => trivial
  | memory w =>
    rcases h with ⟨hstage | hstage, hretained, hsummary⟩ <;> constructor <;>
      simp [hstage, hretained, hsummary, MemoryStage.isOpen, MemoryStage.isTaking]

/-- A step keeps a memory worker sound.  Only three steps choose between two
stages, and they are split by what they choose on. -/
theorem MemoryWorker.Moves.sound {a : Allocator ε σ} {s s' : Scene ε} {w w' : MemoryWorker σ}
    (h : w.Moves a s s' w') (hsound : w.Sound) : w'.Sound := by
  rcases hsound with ⟨hattempts, hdegraded, hretaining, hkeep, hdone⟩
  cases h with
  | request hstage reply =>
    cases hgranted : reply.granted <;> constructor <;>
      simp_all [MemoryStage.isOpen, MemoryStage.isTaking]
  | grant hstage =>
    cases hplan : w.plan.keep <;> constructor <;>
      simp_all [MemoryStage.isOpen, MemoryStage.isTaking]
  | pause hstage =>
    by_cases hnap : w.nap s.now = 0 <;> constructor <;>
      simp_all [MemoryStage.isOpen, MemoryStage.isTaking]
  | _ =>
    constructor <;> simp_all [MemoryStage.isOpen, MemoryStage.isTaking, MemoryWorker.isIdle]

theorem Worker.Moves.sound {a : Allocator ε σ} {s s' : Scene ε} {w w' : Worker σ}
    (h : w.Moves a s s' w') (hsound : w.Sound) : w'.Sound := by
  cases h with
  | cpu h => trivial
  | memory h => exact h.sound hsound

/-! ## A step changes a counter as it changes the share -/

/-- One more in a word. -/
theorem ofNat_add_succ (r n : Nat) : UInt64.ofNat (r + n) + 1 = UInt64.ofNat (r + (n + 1)) := by
  rw [← Nat.add_assoc, UInt64.ofNat_add (r + n) 1]
  rfl

/-- What has been added can be taken away again. -/
theorem ofNat_add_sub (r n : Nat) : UInt64.ofNat (r + n) - UInt64.ofNat n = UInt64.ofNat r := by
  rw [UInt64.ofNat_add, UInt64.add_sub_cancel]

/-- The bytes that are let go with the blocks are what the blocks amount to, if
that fits into a word. -/
theorem MemoryWorker.releasedBytes_eq {w : MemoryWorker σ}
    (h : w.retained * w.plan.blockBytes.toNat < 2 ^ 64) :
    w.releasedBytes = UInt64.ofNat (w.retained * w.plan.blockBytes.toNat) := by
  rw [releasedBytes, saturatingMul, Nat.min_eq_left]
  have : maxWord = 2 ^ 64 - 1 := rfl
  omega

@[simp] theorem Telemetry.gauge_record_cpuActive (t : Telemetry) (x : Recording) :
    (t.record x).gauge .cpuActive = t.gauge .cpuActive := by
  cases x <;> rfl

@[simp] theorem Telemetry.gauge_record_memActive (t : Telemetry) (x : Recording) :
    (t.record x).gauge .memActive = t.gauge .memActive := by
  cases x <;> rfl

@[simp] theorem Scene.record_telemetry (s : Scene ε) (x : Recording) :
    (s.record x).telemetry = s.telemetry.record x := rfl

theorem CpuWorker.Moves.gauge_eq {s s' : Scene ε} {w w' : CpuWorker} (h : w.Moves s s' w')
    (g : Gauge) {r : Nat} (hg : s.telemetry.gauge g = UInt64.ofNat (r + w.share g)) :
    s'.telemetry.gauge g = UInt64.ofNat (r + w'.share g) := by
  cases g with
  | cpuActive =>
    cases h with
    | leave hstage =>
      have hone : s.telemetry.cpuActive = UInt64.ofNat (r + 1) := by
        simpa [share, hstage, Telemetry.gauge] using hg
      show s.telemetry.cpuActive - 1 = UInt64.ofNat (r + 0)
      rw [hone]
      exact ofNat_add_sub r 1
    | work hstage | publish hstage => split <;> simpa [share, hstage] using hg
    | goOn hstage | dismiss hstage | announce hstage | close hstage =>
      simpa [share, hstage] using hg
  | _ => cases h <;> exact hg

/-- Each counter changes in one or two of the transitions of a memory worker. -/
theorem MemoryWorker.Moves.gauge_eq {a : Allocator ε σ} {s s' : Scene ε} {w w' : MemoryWorker σ}
    (h : w.Moves a s s' w') (hsound : w.Sound) (g : Gauge)
    (hfits : g = .retainedBytes → w.retained * w.plan.blockBytes.toNat < 2 ^ 64) {r : Nat}
    (hg : s.telemetry.gauge g = UInt64.ofNat (r + w.share g)) :
    s'.telemetry.gauge g = UInt64.ofNat (r + w'.share g) := by
  cases g with
  | memActive =>
    cases h with
    | leave hstage =>
      have hone : s.telemetry.memActive = UInt64.ofNat (r + 1) := by
        simpa [share, hstage, Telemetry.gauge] using hg
      show s.telemetry.memActive - 1 = UInt64.ofNat (r + 0)
      rw [hone]
      exact ofNat_add_sub r 1
    | request hstage | grant hstage | pause hstage => split <;> simpa [share, hstage] using hg
    | dismiss hstage | goOn hstage | idle hstage | attempt hstage | retain hstage | refuse hstage
      | wake _ hstage | release hstage => simpa [share, hstage] using hg
  | attempts =>
    cases h with
    | attempt hstage =>
      have hattempts : s.telemetry.allocAttempts = UInt64.ofNat (r + w.summary.attempts) := hg
      show s.telemetry.allocAttempts + 1 = UInt64.ofNat (r + (w.summary.attempts + 1))
      rw [hattempts, ofNat_add_succ]
    | _ => exact hg
  | successes =>
    cases h with
    | grant hstage =>
      have hsuccesses : s.telemetry.allocSuccesses = UInt64.ofNat (r + w.summary.allocated) := hg
      show s.telemetry.allocSuccesses + 1 = UInt64.ofNat (r + (w.summary.allocated + 1))
      rw [hsuccesses, ofNat_add_succ]
    | _ => exact hg
  | failures =>
    cases h with
    | refuse hstage =>
      have hnot : w.summary.degraded = false := hsound.not_degraded (by rw [hstage]; rfl)
      have hfailures : s.telemetry.allocFailures = UInt64.ofNat (r + 0) := by
        simpa [share, hnot, Telemetry.gauge] using hg
      show s.telemetry.allocFailures + 1 = UInt64.ofNat (r + (0 + 1))
      rw [hfailures, ofNat_add_succ]
    | _ => exact hg
  | retainedBlocks =>
    cases h with
    | retain hstage =>
      have hblocks : s.telemetry.retainedBlocks = UInt64.ofNat (r + w.retained) := hg
      show s.telemetry.retainedBlocks + 1 = UInt64.ofNat (r + (w.retained + 1))
      rw [hblocks, ofNat_add_succ]
    | release hstage =>
      have hblocks : s.telemetry.retainedBlocks = UInt64.ofNat (r + w.retained) := hg
      show s.telemetry.retainedBlocks - UInt64.ofNat w.retained = UInt64.ofNat (r + 0)
      rw [hblocks, ofNat_add_sub, Nat.add_zero]
    | _ => exact hg
  | retainedBytes =>
    have hbytes : s.telemetry.retainedBytes =
        UInt64.ofNat (r + w.retained * w.plan.blockBytes.toNat) := hg
    cases h with
    | retain hstage =>
      show s.telemetry.retainedBytes + w.plan.blockBytes =
        UInt64.ofNat (r + (w.retained + 1) * w.plan.blockBytes.toNat)
      rw [hbytes, Nat.add_mul, Nat.one_mul, ← Nat.add_assoc,
        UInt64.ofNat_add _ w.plan.blockBytes.toNat, UInt64.ofNat_toNat]
    | release hstage =>
      show s.telemetry.retainedBytes - w.releasedBytes =
        UInt64.ofNat (r + 0 * w.plan.blockBytes.toNat)
      rw [hbytes, releasedBytes_eq (hfits rfl), ofNat_add_sub, Nat.zero_mul, Nat.add_zero]
    | _ => exact hg
  | cpuActive | cpuLaunched | memLaunched => cases h <;> exact hg

/-- A step changes a counter by as much as it changes the share of the worker;
`r` is what the others have put into it. -/
theorem Worker.Moves.gauge_eq {a : Allocator ε σ} {s s' : Scene ε} {w w' : Worker σ}
    (h : w.Moves a s s' w') (hsound : w.Sound) (g : Gauge)
    (hfits : g = .retainedBytes → w.share .retainedBytes < 2 ^ 64) {r : Nat}
    (hg : s.telemetry.gauge g = UInt64.ofNat (r + w.share g)) :
    s'.telemetry.gauge g = UInt64.ofNat (r + w'.share g) := by
  cases h with
  | cpu h => exact h.gauge_eq g hg
  | memory h => exact h.gauge_eq hsound g hfits hg

/-- A worker that enters changes a counter by its share. -/
theorem Worker.IsFresh.gauge_eq {t : Telemetry} {w : Worker σ} (h : w.IsFresh) (g : Gauge) :
    (t.enter w.kind).gauge g = t.gauge g + UInt64.ofNat (w.share g) := by
  cases w with
  | cpu w =>
    have hstage : w.stage ≠ .gone := by
      rcases h with hstage | hstage <;> simp [hstage]
    cases g <;> simp [kind, share, CpuWorker.share, hstage, Telemetry.enter, Telemetry.gauge]
  | memory w =>
    rcases h with ⟨hfresh, hretained, hsummary⟩
    have hstage : w.stage ≠ .gone := by
      rcases hfresh with hstage | hstage <;> simp [hstage]
    cases g <;>
      simp [kind, share, MemoryWorker.share, hstage, hretained, hsummary, Telemetry.enter,
        Telemetry.gauge]

/-! ## The books of an engine -/

namespace Engine

variable {a : Allocator ε σ} {e e' : Engine ε σ}

/-- How a sum over a list changes when one entry does. -/
theorem sum_map_set {α : Type} {l : List α} {i : Nat} {x : α} (h : l[i]? = some x) (f : α → Nat) :
    ∃ r, (l.map f).sum = r + f x ∧ ∀ y, ((l.set i y).map f).sum = r + f y := by
  induction l generalizing i with
  | nil => simp at h
  | cons head l ih =>
    cases i with
    | zero =>
      obtain rfl : head = x := by simpa using h
      exact ⟨(l.map f).sum, by simp [Nat.add_comm], fun y => by simp [Nat.add_comm]⟩
    | succ i =>
      obtain ⟨r, hsum, hset⟩ := ih (by simpa using h)
      refine ⟨f head + r, ?_, fun y => ?_⟩
      · rw [List.map_cons, List.sum_cons, hsum, Nat.add_assoc]
      · rw [List.set_cons_succ, List.map_cons, List.sum_cons, hset y, Nat.add_assoc]

/-- The state of the counters and workers on which a run can be reckoned: every
counter is the total of the shares. -/
structure Booked (e : Engine ε σ) : Prop where
  gauge_eq : ∀ g, e.scene.telemetry.gauge g = UInt64.ofNat (e.total g)
  sound : ∀ w ∈ e.workers, w.Sound
  fresh : ∀ w ∈ e.launching, w.IsFresh

/-- An engine before anything has happened. -/
def atStart (now : Nanos) (environment : ε) (template : σ)
    (shortages : List (Option Shortage) := []) : Engine ε σ :=
  { scene := { environment, now }, template, shortages }

theorem booked_atStart (now : Nanos) (environment : ε) (template : σ)
    (shortages : List (Option Shortage)) :
    (atStart now environment template shortages).Booked where
  gauge_eq g := by cases g <;> rfl
  sound _ h := absurd h List.not_mem_nil
  fresh _ h := absurd h List.not_mem_nil

/-- Every worker that a request launches is fresh. -/
theorem fresh_of_execute {r : Request} (h : ∀ w ∈ e.launching, w.IsFresh) :
    ∀ w ∈ (e.execute r).1.launching, w.IsFresh := by
  refine launching_of_execute h ?_ ?_
  · rintro o - w rfl
    exact ⟨.inl rfl, .inr rfl⟩
  · rintro o - w rfl
    exact ⟨⟨.inl rfl, rfl, rfl⟩, ⟨.inr rfl, rfl, rfl⟩⟩

/-- A move keeps the workers as they should be. -/
theorem sound_of_step {m : Move} (hsound : ∀ w ∈ e.workers, w.Sound)
    (hfresh : ∀ w ∈ e.launching, w.IsFresh) (hstep : e.step a m = some e') :
    (∀ w ∈ e'.workers, w.Sound) ∧ ∀ w ∈ e'.launching, w.IsFresh := by
  cases m with
  | deliver r =>
    obtain rfl : (e.execute r).1 = e' := by simpa [Engine.step] using hstep
    rw [execute_workers]
    exact ⟨hsound, fresh_of_execute hfresh⟩
  | tick t =>
    cases t with
    | launch i =>
      obtain ⟨w, hw, rfl⟩ := launch?_eq_some_iff.1 hstep
      refine ⟨fun w' hw' => ?_, fun w' hw' => hfresh w' (List.mem_of_mem_eraseIdx hw')⟩
      rcases List.mem_append.1 hw' with hw' | hw'
      · exact hsound w' hw'
      · obtain rfl := List.mem_singleton.1 hw'
        exact (hfresh _ (List.mem_of_getElem? hw)).sound
    | work i =>
      obtain ⟨w, s, w', hw, hmoves, rfl⟩ := work?_eq_some_iff.1 hstep
      refine ⟨fun w₁ hw₁ => ?_, hfresh⟩
      rcases List.mem_or_eq_of_mem_set hw₁ with hw₁ | rfl
      · exact hsound w₁ hw₁
      · exact hmoves.sound (hsound w (List.mem_of_getElem? hw))
    | pass t =>
      obtain rfl : e.pass t = e' := by simpa [Engine.step, tick] using hstep
      exact ⟨hsound, hfresh⟩

/-- A move keeps a counter the total of the shares.  Only the bytes that are kept
have to fit into a word for that. -/
theorem gauge_of_step (g : Gauge) {m : Move} (hsound : ∀ w ∈ e.workers, w.Sound)
    (hfresh : ∀ w ∈ e.launching, w.IsFresh)
    (hfits : g = .retainedBytes → ∀ w ∈ e.workers, w.share .retainedBytes < 2 ^ 64)
    (hgauge : e.scene.telemetry.gauge g = UInt64.ofNat (e.total g))
    (hstep : e.step a m = some e') :
    e'.scene.telemetry.gauge g = UInt64.ofNat (e'.total g) := by
  cases m with
  | deliver r =>
    obtain rfl : (e.execute r).1 = e' := by simpa [Engine.step] using hstep
    rw [execute_telemetry, total, execute_workers]
    exact hgauge
  | tick t =>
    cases t with
    | launch i =>
      obtain ⟨w, hw, rfl⟩ := launch?_eq_some_iff.1 hstep
      show (e.scene.telemetry.enter w.kind).gauge g = _
      rw [(hfresh w (List.mem_of_getElem? hw)).gauge_eq, hgauge, ← UInt64.ofNat_add]
      simp [total]
    | work i =>
      obtain ⟨w, s, w', hw, hmoves, rfl⟩ := work?_eq_some_iff.1 hstep
      have hmem : w ∈ e.workers := List.mem_of_getElem? hw
      obtain ⟨r, hsum, hset⟩ := sum_map_set hw (·.share g)
      rw [total, hset w']
      apply hmoves.gauge_eq (hsound w hmem) g (fun hg => hfits hg w hmem)
      rw [hgauge, total, hsum]
    | pass t =>
      obtain rfl : e.pass t = e' := by simpa [Engine.step, tick] using hstep
      exact hgauge

/-- A move keeps the books, as long as the blocks that one worker holds fit into a
word. -/
theorem Booked.step {m : Move} (h : e.Booked)
    (hfits : ∀ w ∈ e.workers, w.share .retainedBytes < 2 ^ 64) (hstep : e.step a m = some e') :
    e'.Booked := by
  rcases h with ⟨hgauge, hsound, hfresh⟩
  obtain ⟨hsound', hfresh'⟩ := sound_of_step hsound hfresh hstep
  exact ⟨fun g => gauge_of_step g hsound hfresh (fun _ => hfits) (hgauge g) hstep, hsound',
    hfresh'⟩

end Engine

end ResourceFaults
