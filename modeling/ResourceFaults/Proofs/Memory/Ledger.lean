import Mathlib
import ResourceFaults.Proofs.Memory.Alone

/-!
# What a memory worker leaves in the counters

`MemoryWorker.ledger` says what the counters are once a worker on its own has come as
far as its own state tells, and `Alone.telemetry_eq` that this is what they are, in every
state of every run.

A worker takes its blocks one by one and lets them go all at once.  The bytes of each
block are added in a sum that wraps; the bytes that are taken away are a product that
stops at the greatest word.  `MemoryPlan.residue` is what this leaves behind.
`Alone.retained_of_gone` says that a worker leaves the two gauges of retained memory as
it has found them exactly if its residue is zero, which it is as long as its blocks
amount to less than two to the 64th bytes; two blocks of the greatest size do not
(`saturated_release_leaves_bytes`).
-/

namespace ResourceFaults

variable {ε σ : Type}

/-! ## Residues -/

/-- What is left of the bytes of so many blocks when they are let go. -/
def MemoryPlan.residue (p : MemoryPlan) (blocks : Nat) : UInt64 :=
  UInt64.ofNat (blocks * p.blockBytes.toNat) -
    UInt64.ofNat (saturatingMul blocks p.blockBytes.toNat)

namespace MemoryPlan

variable {p : MemoryPlan} {blocks : Nat}

@[simp] theorem residue_zero : p.residue 0 = 0 := by
  simp [residue, saturatingMul]

theorem maxWord_eq : maxWord = 2 ^ 64 - 1 := rfl

/-- Nothing is left of blocks that fit into a word, and of such that exceed it by a
number of whole words and end at the greatest word. -/
theorem residue_eq_zero_iff :
    p.residue blocks = 0 ↔
      blocks * p.blockBytes.toNat < 2 ^ 64 ∨ blocks * p.blockBytes.toNat % 2 ^ 64 = maxWord := by
  rw [residue, saturatingMul, UInt64.sub_eq_iff_eq_add, UInt64.zero_add, ← UInt64.toNat_inj,
    UInt64.toNat_ofNat', UInt64.toNat_ofNat', maxWord_eq]
  generalize blocks * p.blockBytes.toNat = n
  omega

end MemoryPlan

/-! ## The ledger of a worker -/

namespace MemoryWorker

variable {a : Allocator ε σ} {s₀ s s' : Scene ε} {w₀ w w' : MemoryWorker σ} {answers : List Bool}
  {plan : MemoryPlan} {t : Telemetry}

/-- The counters, which stood at `t` when the worker had just entered. -/
def ledger (w : MemoryWorker σ) (t : Telemetry) : Telemetry :=
  { t with
    memActive := if w.stage = .gone then t.memActive - 1 else t.memActive
    allocAttempts := t.allocAttempts + UInt64.ofNat w.summary.attempts
    allocSuccesses := t.allocSuccesses + UInt64.ofNat w.summary.allocated
    allocFailures := t.allocFailures + if w.summary.degraded then 1 else 0
    lastBlockBytes := if w.summary.attempts = 0 then t.lastBlockBytes else w.plan.blockBytes
    retainedBlocks := t.retainedBlocks + UInt64.ofNat w.retained
    retainedBytes := t.retainedBytes + UInt64.ofNat (w.retained * w.plan.blockBytes.toNat) +
      w.plan.residue w.summary.retainedBlocks }

/-- Whether a worker has let its blocks go. -/
def hasReleased (w : MemoryWorker σ) : Bool :=
  w.stage = .leaving || w.stage = .gone

/-- What holds of the blocks that a worker holds or has held. -/
structure Keeping (plan : MemoryPlan) (w : MemoryWorker σ) : Prop where
  plan_eq : w.plan = plan
  sound : w.Sound
  /-- Every block that was granted is kept, if the plan is to keep blocks. -/
  retained_eq : w.hasReleased = false →
    w.retained + (if w.stage = .retaining then 1 else 0) =
      if plan.keep then w.summary.allocated else 0
  /-- The summary tells the number of blocks once they are let go. -/
  retainedBlocks_eq : w.summary.retainedBlocks =
    if w.hasReleased && plan.keep then w.summary.allocated else 0

theorem Keeping.looked (h : w.Keeping plan) (hstage : w.stage = .polling) (goesOn : Bool) :
    (w.looked goesOn).Keeping plan := by
  rcases h with ⟨hplan, ⟨hattempts, hdegraded, hretaining, hkeep, hdone⟩, hretained, hblocks⟩
  cases goesOn <;> cases hidle : w.isIdle <;> constructor <;> try constructor
  all_goals
    simp_all [MemoryWorker.looked, hasReleased, isIdle, MemoryStage.isOpen, MemoryStage.isTaking]

theorem Moves.keeping (hmoves : w.Moves a s s' w') (h : w.Keeping plan) : w'.Keeping plan := by
  have hsound := hmoves.sound h.sound
  rcases h with ⟨rfl, ⟨-, -, hretaining, -, -⟩, hretained, hblocks⟩
  cases hmoves with
  | request hstage reply =>
    cases hgranted : reply.granted <;> constructor <;> simp_all [hasReleased]
  | grant hstage =>
    cases hplan : w.plan.keep <;> constructor <;> simp_all [hasReleased]
  | pause hstage =>
    by_cases hnap : w.nap s.now = 0 <;> constructor <;> simp_all [hasReleased]
  | _ => constructor <;> simp_all [hasReleased]

/-- A step changes the counters as it changes the ledger of the worker. -/
theorem Moves.ledger_eq (hmoves : w.Moves a s s' w') (h : w.Keeping plan)
    (hs : s.telemetry = w.ledger t) : s'.telemetry = w'.ledger t := by
  cases hmoves with
  | dismiss hstage | goOn hstage | idle hstage | wake _ hstage => simpa [ledger, hstage] using hs
  | pause hstage | request hstage => split <;> simpa [ledger, hstage] using hs
  | attempt hstage =>
    rw [Scene.record_telemetry, hs]
    simp [ledger, Telemetry.record, hstage, UInt64.add_assoc]
  | grant hstage =>
    rw [Scene.record_telemetry, hs]
    split <;> simp [ledger, Telemetry.record, hstage, UInt64.add_assoc]
  | retain hstage =>
    rw [Scene.record_telemetry, hs]
    have hbytes : t.retainedBytes + UInt64.ofNat (w.retained * w.plan.blockBytes.toNat) +
          w.plan.residue w.summary.retainedBlocks + w.plan.blockBytes =
        t.retainedBytes + UInt64.ofNat ((w.retained + 1) * w.plan.blockBytes.toNat) +
          w.plan.residue w.summary.retainedBlocks := by
      rw [Nat.add_mul, Nat.one_mul, UInt64.ofNat_add, UInt64.ofNat_toNat, ← UInt64.add_assoc,
        add_right_comm]
    simp only [ledger, Telemetry.record, hstage, hbytes, UInt64.ofNat_add, ← UInt64.add_assoc]
    rfl
  | refuse hstage =>
    rw [Scene.record_telemetry, hs]
    have : w.summary.degraded = false := h.sound.not_degraded (by rw [hstage]; rfl)
    simp [ledger, Telemetry.record, hstage, this]
  | release hstage =>
    rw [Scene.record_telemetry, hs]
    have hnone : w.summary.retainedBlocks = 0 := by simp [h.retainedBlocks_eq, hasReleased, hstage]
    have hbytes : t.retainedBytes + UInt64.ofNat (w.retained * w.plan.blockBytes.toNat) -
        w.releasedBytes = t.retainedBytes + w.plan.residue w.retained := by
      rw [MemoryPlan.residue, releasedBytes, ← add_sub_assoc]
    simpa [ledger, Telemetry.record, hstage, hnone] using hbytes
  | leave hstage =>
    show s.telemetry.leave .memory = _
    rw [hs]
    simp [ledger, Telemetry.leave, hstage]

/-! ## Whole runs -/

/-- A worker that has just entered. -/
def launched (plan : MemoryPlan) (deadline : Deadline) (allocator : σ) : MemoryWorker σ :=
  { plan, deadline, allocator }

variable {deadline : Deadline} {allocator : σ}

theorem keeping_launched (plan : MemoryPlan) (deadline : Deadline) (allocator : σ) :
    (launched plan deadline allocator).Keeping plan where
  plan_eq := rfl
  sound := Worker.IsFresh.sound (w := .memory (launched plan deadline allocator))
    ⟨.inl rfl, rfl, rfl⟩
  retained_eq _ := by cases plan.keep <;> rfl
  retainedBlocks_eq := by cases plan.keep <;> rfl

theorem ledger_launched (plan : MemoryPlan) (deadline : Deadline) (allocator : σ)
    (t : Telemetry) : (launched plan deadline allocator).ledger t = t := by
  simp [launched, ledger]

theorem ledger_looked (hstage : w.stage = .polling) (goesOn : Bool) :
    (w.looked goesOn).ledger t = w.ledger t := by
  cases goesOn <;> cases hidle : w.isIdle <;> simp [MemoryWorker.looked, ledger, hstage, hidle]

/-- In every state of a run the ledger tells what the counters are. -/
theorem Alone.telemetry_eq (h : Alone a s₀ (launched plan deadline allocator) answers s w) :
    w.Keeping plan ∧ s.telemetry = w.ledger s₀.telemetry := by
  refine h.keeps (P := fun _ s w => w.Keeping plan ∧ s.telemetry = w.ledger s₀.telemetry)
    ⟨keeping_launched _ _ _, (ledger_launched _ _ _ _).symm⟩ ?_ ?_ ?_
  · rintro answers s w goesOn hstage ⟨hkeeping, hs⟩
    exact ⟨hkeeping.looked hstage goesOn, hs.trans (ledger_looked hstage goesOn).symm⟩
  · rintro answers s w s' w' - - hmoves ⟨hkeeping, hs⟩
    exact ⟨hmoves.keeping hkeeping, hmoves.ledger_eq hkeeping hs⟩
  · rintro answers s w armed time h
    exact h

/-! ## What is left behind -/

/-- A worker that keeps its blocks and does not pause is told twice to go on and then to
stop, and ends. -/
theorem exists_alone_twice (bytes : UInt64) :
    let s₀ : Scene (List JournalEntry) := { environment := [] }
    ∃ s w, Alone .budgeted s₀ (launched ⟨bytes, 0, true⟩ ⟨1⟩ ⟨⟨none, 0⟩, 0⟩)
        [true, true, false] s w ∧ w.stage = .gone ∧ w.summary.retainedBlocks = 2 := by
  intro s₀
  have h₀ : Alone .budgeted s₀ (launched ⟨bytes, 0, true⟩ ⟨1⟩ ⟨⟨none, 0⟩, 0⟩) [] s₀ _ := .start
  have h₁ := h₀.look true rfl rfl
  have h₂ := h₁.work nofun rfl
  have h₃ := h₂.work nofun rfl
  have h₄ := h₃.work nofun rfl
  have h₅ := h₄.work nofun rfl
  have h₆ := h₅.work nofun rfl
  have h₇ := h₆.look true rfl rfl
  have h₈ := h₇.work nofun rfl
  have h₉ := h₈.work nofun rfl
  have h₁₀ := h₉.work nofun rfl
  have h₁₁ := h₁₀.work nofun rfl
  have h₁₂ := h₁₁.work nofun rfl
  have h₁₃ := h₁₂.look false rfl rfl
  have h₁₄ := h₁₃.work nofun rfl
  have h₁₅ := h₁₄.work nofun rfl
  exact ⟨_, _, h₁₅, rfl, rfl⟩

/-- What a worker that has ended leaves in the gauges of retained memory. -/
theorem Alone.retained_eq_of_gone (h : Alone a s₀ (launched plan deadline allocator) answers s w)
    (hgone : w.stage = .gone) :
    s.telemetry.retainedBlocks = s₀.telemetry.retainedBlocks ∧
      s.telemetry.retainedBytes =
        s₀.telemetry.retainedBytes + plan.residue w.summary.retainedBlocks := by
  obtain ⟨⟨hplan, hsound, -, -⟩, hs⟩ := h.telemetry_eq
  have hnone : w.retained = 0 := hsound.retained_of_done (.inr hgone)
  rw [hs]
  simp [ledger, hnone, hplan]

/-- A worker that has ended has let go as many blocks as it has kept, and leaves the
number of retained blocks as it has found it.  It leaves their bytes as it has found
them exactly if what its blocks amount to is below two to the 64th, or above it and
congruent to the greatest word. -/
theorem Alone.retained_of_gone (h : Alone a s₀ (launched plan deadline allocator) answers s w)
    (hgone : w.stage = .gone) :
    w.summary.retainedBlocks = (if plan.keep then w.summary.allocated else 0) ∧
      s.telemetry.retainedBlocks = s₀.telemetry.retainedBlocks ∧
      (s.telemetry.retainedBytes = s₀.telemetry.retainedBytes ↔
        w.summary.retainedBlocks * plan.blockBytes.toNat < 2 ^ 64 ∨
          w.summary.retainedBlocks * plan.blockBytes.toNat % 2 ^ 64 = maxWord) := by
  obtain ⟨hblocks, hbytes⟩ := h.retained_eq_of_gone hgone
  have hkept := h.telemetry_eq.1.retainedBlocks_eq
  refine ⟨by simpa [hasReleased, hgone] using hkept, hblocks, ?_⟩
  rw [hbytes, ← MemoryPlan.residue_eq_zero_iff]
  exact UInt64.add_eq_left

/-- Two blocks of a mebibyte are let go with all their bytes. -/
theorem retained_of_two_mebibytes :
    let s₀ : Scene (List JournalEntry) := { environment := [] }
    ∃ s w, Alone .budgeted s₀ (launched ⟨1048576, 0, true⟩ ⟨1⟩ ⟨⟨none, 0⟩, 0⟩)
        [true, true, false] s w ∧
      w.stage = .gone ∧ w.summary.retainedBlocks = 2 ∧ s.telemetry.retainedBlocks = 0 ∧
      s.telemetry.retainedBytes = 0 := by
  intro s₀
  obtain ⟨s, w, h, hgone, htwo⟩ := exists_alone_twice 1048576
  obtain ⟨-, hblocks, hbytes⟩ := h.retained_of_gone hgone
  exact ⟨s, w, h, hgone, htwo, hblocks, hbytes.2 (.inl (by rw [htwo]; decide))⟩

/-- Two blocks of the greatest size leave the gauge of retained bytes at the greatest
word, where it was at zero. -/
theorem saturated_release_leaves_bytes :
    let s₀ : Scene (List JournalEntry) := { environment := [] }
    ∃ s w, Alone .budgeted s₀ (launched ⟨18446744073709551615, 0, true⟩ ⟨1⟩ ⟨⟨none, 0⟩, 0⟩)
        [true, true, false] s w ∧
      w.stage = .gone ∧ s₀.telemetry.retainedBytes = 0 ∧
      s.telemetry.retainedBytes = 18446744073709551615 := by
  intro s₀
  obtain ⟨s, w, h, hgone, htwo⟩ := exists_alone_twice 18446744073709551615
  refine ⟨s, w, h, hgone, rfl, ?_⟩
  rw [(h.retained_eq_of_gone hgone).2, htwo]
  decide +kernel

end MemoryWorker

end ResourceFaults
