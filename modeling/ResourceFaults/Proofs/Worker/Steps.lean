import Mathlib
import ResourceFaults.Engine.Basic

/-!
# What one step of a worker does

`CpuWorker.Moves` and `MemoryWorker.Moves` list the transitions of the two kinds
of worker, one constructor for each.  `CpuWorker.step_iff` and
`MemoryWorker.step_iff` say that a step makes one of these transitions and no
other, so a proof about a step is a case split with named cases and never
unfolds the step.

A worker goes round its loop until a look at the signal and the clock sends it
out.  `Worker.hasLeft` says on which side of that look a worker stands, and the
last section says how a step can change the side.
-/

namespace ResourceFaults

variable {ε σ : Type}

/-! ## CPU workers -/

/-- The transitions of a CPU worker. -/
inductive CpuWorker.Moves (s : Scene ε) (w : CpuWorker) : Scene ε → CpuWorker → Prop
  | goOn (hstage : w.stage = .polling) (hon : s.goesOn w.deadline = true) :
      Moves s w s { w with stage := .working }
  | dismiss (hstage : w.stage = .polling) (hoff : s.goesOn w.deadline = false) :
      Moves s w s { w with stage := .closing }
  | work (hstage : w.stage = .working) :
      Moves s w s
        { w with
          load := w.load.step
          pending := w.pending + 1
          stage := if w.pending + 1 == cpuBatch then .publishing else .polling }
  | publish (hstage : w.stage = .publishing) :
      Moves s w (s.record (.iterations w.pending))
        { w with pending := 0, stage := if w.progressed then .polling else .announcing }
  | announce (hstage : w.stage = .announcing) :
      Moves s w (s.record .progress) { w with progressed := true, stage := .polling }
  | close (hstage : w.stage = .closing) :
      Moves s w (s.record (.iterations w.pending)) { w with pending := 0, stage := .leaving }
  | leave (hstage : w.stage = .leaving) : Moves s w (s.leave .cpu) { w with stage := .gone }

theorem CpuWorker.step_iff {s s' : Scene ε} {w w' : CpuWorker} :
    w.step s = some (s', w') ↔ w.Moves s s' w' := by
  constructor
  · intro h
    cases hstage : w.stage <;>
      simp only [step, hstage, Option.some.injEq, Prod.mk.injEq, reduceCtorEq] at h
    case polling =>
      rcases h with ⟨rfl, rfl⟩
      cases hon : s.goesOn w.deadline
      · exact .dismiss hstage hon
      · exact .goOn hstage hon
    all_goals
      rcases h with ⟨rfl, rfl⟩
      constructor
      exact hstage
  · intro h
    cases h <;> simp_all [step]

/-! ## Memory workers -/

/-- The transitions of a memory worker. -/
inductive MemoryWorker.Moves (a : Allocator ε σ) (s : Scene ε) (w : MemoryWorker σ) :
    Scene ε → MemoryWorker σ → Prop
  | dismiss (hstage : w.stage = .polling) (hoff : s.goesOn w.deadline = false) :
      Moves a s w s { w with stage := .releasing }
  | goOn (hstage : w.stage = .polling) (hon : s.goesOn w.deadline = true)
      (hidle : w.isIdle = false) : Moves a s w s { w with stage := .attempting }
  | idle (hstage : w.stage = .polling) (hon : s.goesOn w.deadline = true)
      (hidle : w.isIdle = true) : Moves a s w s { w with stage := .pausing }
  | attempt (hstage : w.stage = .attempting) :
      Moves a s w (s.record (.attempt w.plan.blockBytes))
        { w with
          stage := .requesting
          summary := { w.summary with attempts := w.summary.attempts + 1 } }
  | request (hstage : w.stage = .requesting) (reply : Reply ε σ)
      (hreply : a.request s.telemetry s.environment w.allocator w.plan.blockBytes = reply) :
      Moves a s w
        { s with environment := reply.environment, armed := s.armed && !reply.stops }
        { w with
          allocator := reply.state
          stage := if reply.granted then .granted else .refused }
  | grant (hstage : w.stage = .granted) :
      Moves a s w (s.record .success)
        { w with
          stage := if w.plan.keep then .retaining else .pausing
          summary := { w.summary with allocated := w.summary.allocated + 1 } }
  | retain (hstage : w.stage = .retaining) :
      Moves a s w (s.record (.retain w.plan.blockBytes))
        { w with stage := .pausing, retained := w.retained + 1 }
  | refuse (hstage : w.stage = .refused) :
      Moves a s w (s.record .failure)
        { w with stage := .pausing, summary := { w.summary with degraded := true } }
  | pause (hstage : w.stage = .pausing) :
      Moves a s w s
        { w with stage := if w.nap s.now == 0 then .polling else .napping (s.now + w.nap s.now) }
  | wake (until_ : Nanos) (hstage : w.stage = .napping until_) (hnow : until_ ≤ s.now) :
      Moves a s w s { w with stage := .polling }
  | release (hstage : w.stage = .releasing) :
      Moves a s w (s.record (.release (UInt64.ofNat w.retained) w.releasedBytes))
        { w with
          stage := .leaving
          retained := 0
          summary := { w.summary with retainedBlocks := w.retained } }
  | leave (hstage : w.stage = .leaving) :
      Moves a s w (s.leave .memory) { w with stage := .gone }

theorem MemoryWorker.step_iff {a : Allocator ε σ} {s s' : Scene ε} {w w' : MemoryWorker σ} :
    w.step a s = some (s', w') ↔ w.Moves a s s' w' := by
  constructor
  · intro h
    cases hstage : w.stage <;>
      simp only [step, stepTold, hstage, Option.some.injEq, Prod.mk.injEq, reduceCtorEq] at h
    case polling =>
      rcases h with ⟨rfl, rfl⟩
      cases hon : s.goesOn w.deadline
      · exact .dismiss hstage hon
      · cases hidle : w.isIdle
        · exact .goOn hstage hon hidle
        · exact .idle hstage hon hidle
    case napping wake =>
      split at h
      · rename_i hnow
        simp only [Option.some.injEq, Prod.mk.injEq] at h
        rcases h with ⟨rfl, rfl⟩
        exact .wake wake hstage hnow
      · cases h
    case requesting =>
      rcases h with ⟨rfl, rfl⟩
      exact .request hstage _ rfl
    all_goals
      rcases h with ⟨rfl, rfl⟩
      constructor
      exact hstage
  · intro h
    cases h <;> simp_all [step, stepTold]

/-! ## Workers of either kind -/

/-- The transitions of a worker. -/
inductive Worker.Moves (a : Allocator ε σ) (s s' : Scene ε) : Worker σ → Worker σ → Prop
  | cpu {w w' : CpuWorker} (h : w.Moves s s' w') : Moves a s s' (.cpu w) (.cpu w')
  | memory {w w' : MemoryWorker σ} (h : w.Moves a s s' w') :
      Moves a s s' (.memory w) (.memory w')

theorem Worker.step_iff {a : Allocator ε σ} {s s' : Scene ε} {w w' : Worker σ} :
    w.step a s = some (s', w') ↔ w.Moves a s s' w' := by
  cases w with
  | cpu w =>
    simp only [step, Option.map_eq_some_iff, Prod.exists, Prod.mk.injEq, CpuWorker.step_iff]
    constructor
    · intro h
      rcases h with ⟨s₁, w₁, h, rfl, rfl⟩
      exact .cpu h
    · intro h
      rcases h with ⟨h⟩
      exact ⟨_, _, h, rfl, rfl⟩
  | memory w =>
    simp only [step, Option.map_eq_some_iff, Prod.exists, Prod.mk.injEq, MemoryWorker.step_iff]
    constructor
    · intro h
      rcases h with ⟨s₁, w₁, h, rfl, rfl⟩
      exact .memory h
    · intro h
      rcases h with _ | h
      exact ⟨_, _, h, rfl, rfl⟩

/-! ## The two sides of a loop -/

/-- The stages of a CPU worker that has left its loop. -/
def CpuStage.isPast : CpuStage → Bool
  | closing | leaving | gone => true
  | _ => false

/-- The stages of a memory worker that has left its loop. -/
def MemoryStage.isPast : MemoryStage → Bool
  | releasing | leaving | gone => true
  | _ => false

namespace Worker

/-- Whether the next step of a worker is its look at the signal and the clock. -/
def looks : Worker σ → Bool
  | cpu w => w.stage = .polling
  | memory w => w.stage = .polling

/-- Whether a worker has left its loop. -/
def hasLeft : Worker σ → Bool
  | cpu w => w.stage.isPast
  | memory w => w.stage.isPast

/-- The attempts that a worker has made. -/
def attempts : Worker σ → Nat
  | cpu _ => 0
  | memory w => w.summary.attempts

/-- Whether the next step of a worker makes an attempt, to which its last look has admitted
it. -/
def attempting : Worker σ → Bool
  | cpu _ => false
  | memory w => w.stage = .attempting

namespace Moves

variable {a : Allocator ε σ} {s s' : Scene ε} {w w' : Worker σ}

/-- No step changes a deadline. -/
theorem deadline_eq (h : w.Moves a s s' w') : w'.deadline = w.deadline := by
  cases h with
  | cpu h => cases h <;> rfl
  | memory h => cases h <;> rfl

/-- No step takes time. -/
theorem now_eq (h : w.Moves a s s' w') : s'.now = s.now := by
  cases h with
  | cpu h => cases h <;> rfl
  | memory h => cases h <;> rfl

/-- No step raises the signal. -/
theorem armed_of_armed (h : w.Moves a s s' w') (harmed : s'.armed = true) : s.armed = true := by
  cases h with
  | cpu h => cases h <;> exact harmed
  | memory h =>
    cases h
    case request => exact (Bool.and_eq_true_iff.1 harmed).1
    all_goals exact harmed

/-- A worker that has ended makes no step. -/
theorem isGone_eq_false (h : w.Moves a s s' w') : w.isGone = false := by
  cases h with
  | cpu h => cases h <;> simp_all [isGone]
  | memory h => cases h <;> simp_all [isGone]

/-- A worker that has left its loop never comes back. -/
theorem hasLeft_of_hasLeft (h : w.Moves a s s' w') (hleft : w.hasLeft = true) :
    w'.hasLeft = true := by
  cases h with
  | cpu h => cases h <;> simp_all [hasLeft, CpuStage.isPast]
  | memory h => cases h <;> simp_all [hasLeft, MemoryStage.isPast]

/-- A look that says no sends the worker out of its loop. -/
theorem hasLeft_of_looks (h : w.Moves a s s' w') (hlooks : w.looks = true)
    (hoff : s.goesOn w.deadline = false) : w'.hasLeft = true := by
  cases h with
  | cpu h => cases h <;> simp_all [looks, hasLeft, deadline, CpuStage.isPast]
  | memory h => cases h <;> simp_all [looks, hasLeft, deadline, MemoryStage.isPast]

/-- Only a look that says yes leads to the stage of an attempt. -/
theorem attempting_eq_false (h : w.Moves a s s' w') (hlooks : w.looks = false) :
    w'.attempting = false := by
  cases h with
  | cpu h => rfl
  | memory h =>
    cases h <;> simp_all [looks, attempting]
    all_goals split <;> simp

/-- Attempts are made one by one, each at the stage for it. -/
theorem attempts_eq (h : w.Moves a s s' w') :
    w'.attempts = w.attempts + if w.attempting then 1 else 0 := by
  cases h with
  | cpu h => rfl
  | memory h => cases h <;> simp_all [attempts, attempting]

end Moves

theorem looks_eq_false {w : Worker σ} (h : w.hasLeft = true) : w.looks = false := by
  cases w with
  | cpu w => cases hs : w.stage <;> simp_all [looks, hasLeft, CpuStage.isPast]
  | memory w => cases hs : w.stage <;> simp_all [looks, hasLeft, MemoryStage.isPast]

theorem attempting_eq_false {w : Worker σ} (h : w.hasLeft = true) : w.attempting = false := by
  cases w with
  | cpu w => rfl
  | memory w => cases hs : w.stage <;> simp_all [attempting, hasLeft, MemoryStage.isPast]

end Worker

end ResourceFaults
