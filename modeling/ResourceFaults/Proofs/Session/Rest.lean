import Mathlib
import ResourceFaults.Proofs.Session.Deeds

/-!
# What the deeds of a session come to

`ClosedForm` says what the signal and the counters come to after some deeds.  It
adds up what each deed comes to on its own: the counters that only grow over all
deeds, and the others over the deeds since the last stop.

`Engine.Rests` ties the workers of an engine that has settled to the deeds before
it, and `Engine.Rests.closedForm` reads the counters off the workers.
-/

namespace ResourceFaults

/-! ## What a deed comes to -/

namespace Deed

/-- What the budget of the worker of a deed comes to. -/
def quota (f : Budget → Nat) : Deed BudgetState → Nat
  | mem _ _ template => f template.budget
  | _ => 0

/-- The blocks that the worker of a deed keeps. -/
def keptBlocks : Deed BudgetState → Nat
  | mem o _ template => if o.keep then template.budget.successes else 0
  | _ => 0

/-- The bytes that the worker of a deed keeps. -/
def keptBytes : Deed BudgetState → Nat
  | mem o _ template => if o.keep then template.budget.successes * o.blockBytes.toNat else 0
  | _ => 0

/-- The requests for blocks that the worker of a deed makes. -/
def sizes : Deed BudgetState → List UInt64
  | mem o _ template => List.replicate template.budget.attempts o.blockBytes
  | _ => []

/-- Whether the signal is down after a deed, by request or by the allocator. -/
def isStop : Deed BudgetState → Bool
  | cpu .. | cpuShort .. | memShort .. => false
  | mem o _ template => o.durationSecs != 0 && template.budget.lowers
  | stop => true

/-- The values that the signal takes with a deed: a start raises it, a stop lowers
it, and an allocator may lower it after the start of its worker. -/
def signals : Deed BudgetState → List Bool
  | stop => [false]
  | d => if d.isStop then [true, false] else [true]

/-- What a deed must keep to up to an instant: its workers last until then unless
its duration is zero; and the budget of a worker that lasts is fresh and bounded,
and grants no more bytes than fit into a word. -/
def Fair (now : Nanos) : Deed BudgetState → Prop
  | cpu o deadline | cpuShort o deadline _ _ =>
    o.durationSecs ≠ 0 → deadline.hasPassed now = false
  | mem o deadline template =>
    template.calls = 0 ∧
      (o.durationSecs ≠ 0 → deadline.hasPassed now = false ∧ template.budget.IsBounded ∧
        template.budget.successes * o.blockBytes.toNat < 2 ^ 64)
  | memShort _ template _ => template.calls = 0
  | stop => True

instance (now : Nanos) (d : Deed BudgetState) : Decidable (d.Fair now) :=
  match d with
  | cpu o deadline | cpuShort o deadline _ _ =>
    inferInstanceAs (Decidable (o.durationSecs ≠ 0 → deadline.hasPassed now = false))
  | mem o deadline template =>
    inferInstanceAs (Decidable (template.calls = 0 ∧
      (o.durationSecs ≠ 0 → deadline.hasPassed now = false ∧ template.budget.IsBounded ∧
        template.budget.successes * o.blockBytes.toNat < 2 ^ 64)))
  | memShort _ template _ => inferInstanceAs (Decidable (template.calls = 0))
  | stop => inferInstanceAs (Decidable True)

/-- The deeds since the last one after which the signal was down. -/
def sinceStop (ds : List (Deed BudgetState)) : List (Deed BudgetState) :=
  ds.rtakeWhile fun d => !d.isStop

end Deed

/-- What the signal and the counters come to after some deeds; counts are modulo
`2 ^ 64`, as the counters are. -/
structure ClosedForm (ds : List (Deed BudgetState))
    (e : Engine (List JournalEntry) BudgetState) : Prop where
  /-- The signal has the last value that it was given. -/
  armed : e.scene.armed = (ds.flatMap Deed.signals).getLastD false
  cpuLaunched : e.scene.telemetry.cpuLaunched = UInt64.ofNat (ds.map Deed.launches).sum
  memLaunched : e.scene.telemetry.memLaunched = UInt64.ofNat (ds.map Deed.memories).sum
  /-- Active are the workers that last, with a thread, and were launched since the last
  stop. -/
  cpuActive : e.scene.telemetry.cpuActive =
    UInt64.ofNat (((Deed.sinceStop ds).filter Deed.lasts).map Deed.threads).sum
  memActive : e.scene.telemetry.memActive =
    UInt64.ofNat (((Deed.sinceStop ds).filter Deed.lasts).map Deed.memories).sum
  idle : e.scene.armed = false →
    e.scene.telemetry.cpuActive = 0 ∧ e.scene.telemetry.memActive = 0
  /-- Every worker that lasts has used up its budget. -/
  allocAttempts : e.scene.telemetry.allocAttempts =
    UInt64.ofNat ((ds.filter Deed.lasts).map (Deed.quota Budget.attempts)).sum
  allocSuccesses : e.scene.telemetry.allocSuccesses =
    UInt64.ofNat ((ds.filter Deed.lasts).map (Deed.quota Budget.successes)).sum
  allocFailures : e.scene.telemetry.allocFailures =
    UInt64.ofNat ((ds.filter Deed.lasts).map (Deed.quota Budget.failures)).sum
  /-- The journal holds the requests of one worker after the other. -/
  sizes : e.scene.sizes = (ds.filter Deed.lasts).flatMap Deed.sizes
  lastBlockBytes : e.scene.telemetry.lastBlockBytes =
    ((ds.filter Deed.lasts).flatMap Deed.sizes).getLastD 0
  /-- Kept are the blocks of the workers that are active. -/
  retainedBlocks : e.scene.telemetry.retainedBlocks =
    UInt64.ofNat (((Deed.sinceStop ds).filter Deed.lasts).map Deed.keptBlocks).sum
  retainedBytes : e.scene.telemetry.retainedBytes =
    UInt64.ofNat (((Deed.sinceStop ds).filter Deed.lasts).map Deed.keptBytes).sum

namespace Deed

variable {horizon : Nanos} {d : Deed BudgetState}

/-- What a deed is as far as the horizon is concerned: its workers with threads last
unless its duration is zero, and a worker without one does not. -/
def Proper (horizon : Nanos) : Deed BudgetState → Prop
  | cpu o deadline => horizon < deadline.instant ↔ o.durationSecs ≠ 0
  | mem o deadline template =>
    (horizon < deadline.instant ↔ o.durationSecs ≠ 0) ∧ template.calls = 0
  | stop => True
  | cpuShort o deadline _ now => (horizon < deadline.instant ↔ o.durationSecs ≠ 0) ∧ now ≤ horizon
  | memShort _ template now => now ≤ horizon ∧ template.calls = 0

/-- What a deed comes to in the counters that only grow. -/
def made (d : Deed BudgetState) : Gauge → Nat
  | .cpuLaunched => d.launches
  | .memLaunched => d.memories
  | .attempts => if d.lasts then d.quota Budget.attempts else 0
  | .successes => if d.lasts then d.quota Budget.successes else 0
  | .failures => if d.lasts then d.quota Budget.failures else 0
  | _ => 0

/-- What a deed comes to in the other counters while its workers are there. -/
def held (d : Deed BudgetState) : Gauge → Nat
  | .cpuActive => if d.lasts then d.threads else 0
  | .memActive => if d.lasts then d.memories else 0
  | .retainedBlocks => if d.lasts then d.keptBlocks else 0
  | .retainedBytes => if d.lasts then d.keptBytes else 0
  | _ => 0

theorem sum_made (h : d.Proper horizon) (g : Gauge) :
    (d.workers.map (·.made horizon g)).sum = d.made g := by
  cases d with
  | stop => cases g <;> rfl
  | cpu o deadline => cases g <;> simp [workers, made, Worker.made, launches, memories, quota]
  | mem o deadline template =>
    cases g <;> simp [workers, made, Worker.made, launches, memories, quota, lasts, h.1]
  | cpuShort o deadline threads now =>
    cases g <;>
      simp [workers, made, Worker.made, Worker.withoutThread, launches, memories, quota]
  | memShort o template now =>
    have hpast : ¬ horizon < now := Nat.not_lt.2 h.1
    cases g <;> simp [workers, made, Worker.made, launches, memories, lasts, hpast]

theorem sum_held (h : d.Proper horizon) (g : Gauge) :
    (d.workers.map (·.held horizon g)).sum = d.held g := by
  cases d with
  | stop => cases g <;> rfl
  | cpu o deadline =>
    have hlasts : horizon < deadline.instant ↔ o.durationSecs ≠ 0 := h
    cases g <;>
      simp [workers, held, Worker.held, threads, memories, keptBlocks, keptBytes, lasts, hlasts]
  | mem o deadline template =>
    cases g <;>
      simp [workers, held, Worker.held, threads, memories, keptBlocks, keptBytes, lasts, h.1,
        Options.memoryPlan]
  | cpuShort o deadline count now =>
    have hpast : ¬ horizon < now := Nat.not_lt.2 h.2
    cases g <;>
      simp [workers, held, Worker.held, Worker.withoutThread, threads, memories, keptBlocks,
        keptBytes, lasts, h.1, hpast]
  | memShort o template now =>
    have hpast : ¬ horizon < now := Nat.not_lt.2 h.1
    cases g <;> simp [workers, held, Worker.held, lasts, hpast]

end Deed

/-! ## An engine that rests -/

namespace Engine

variable {horizon : Nanos} {ds : List (Deed BudgetState)} {d : Deed BudgetState}
  {e e' : Engine (List JournalEntry) BudgetState} {n : Nat}

/-- An engine that has settled after some deeds.  The first `n` workers are over,
and the others were launched since the last stop. -/
structure Rests (horizon : Nanos) (ds : List (Deed BudgetState)) (n : Nat)
    (e : Engine (List JournalEntry) BudgetState) : Prop where
  rest : e.IsAtRest
  cut : n ≤ e.workers.length
  past : ∀ w ∈ e.workers.take n, w.IsOver horizon
  minds : ∀ w ∈ e.workers.drop n, w.Minds horizon e.scene
  debtless : ∀ w ∈ e.workers.drop n, w.debt horizon = 0
  booked : e.Booked
  proper : ∀ d ∈ ds, d.Proper horizon
  origins : (e.workers.map Worker.origin).Perm ((ds.flatMap Deed.workers).map Worker.origin)
  young : ((e.workers.drop n).map Worker.origin).Perm
    (((Deed.sinceStop ds).flatMap Deed.workers).map Worker.origin)
  silent : e.scene.armed = false → n = e.workers.length
  armed : e.scene.armed = (ds.flatMap Deed.signals).getLastD false
  sizes : e.scene.sizes = (ds.filter Deed.lasts).flatMap Deed.sizes
  latest : e.scene.telemetry.lastBlockBytes = e.scene.sizes.getLastD 0

/-- Conditional terms of a sum can be filtered out. -/
theorem sum_map_ite {α : Type} (l : List α) (p : α → Bool) (f : α → Nat) :
    (l.map fun x => if p x then f x else 0).sum = ((l.filter p).map f).sum := by
  induction l with
  | nil => rfl
  | cons x l ih =>
    rw [List.map_cons, List.sum_cons, ih, List.filter_cons]
    cases p x with
    | true => simp
    | false => simp

/-- A sum over workers can be taken deed by deed. -/
theorem sum_map_workers {ws : List (Worker BudgetState)} {f : Worker BudgetState → Nat}
    {f' : Deed BudgetState → Nat}
    (hperm : (ws.map Worker.origin).Perm ((ds.flatMap Deed.workers).map Worker.origin))
    (horigin : ∀ w, f w.origin = f w) (hdeed : ∀ d ∈ ds, (d.workers.map f).sum = f' d) :
    (ws.map f).sum = (ds.map f').sum := by
  have hsame : f ∘ Worker.origin = f := funext horigin
  have hsum : (ws.map f).sum = ((ds.flatMap Deed.workers).map f).sum := by
    have hsums := (hperm.map f).sum_eq
    rwa [List.map_map, List.map_map, hsame] at hsums
  rw [hsum, List.map_flatMap, List.flatMap_def, List.sum_flatten, List.map_map]
  exact congrArg List.sum (List.map_congr_left hdeed)

namespace Rests

variable (h : e.Rests horizon ds n)

include h

/-- What a worker has put into the counters. -/
theorem share_eq {w : Worker BudgetState} (hw : w ∈ e.workers) (g : Gauge) :
    w.share g = w.made horizon g + if w.isGone then 0 else w.held horizon g := by
  have hsettled := h.rest.2 w hw
  rw [← List.take_append_drop n e.workers, List.mem_append] at hw
  rcases hw with hw | hw
  · obtain ⟨hgone, hshare⟩ := h.past w hw
    rw [hshare, if_pos hgone, Nat.add_zero]
  · exact (h.minds w hw).share_eq hsettled (h.debtless w hw) g

/-- A worker that is gone while the signal is up is one that did not last. -/
theorem held_eq {w : Worker BudgetState} (hw : w ∈ e.workers.drop n) (g : Gauge) :
    (if w.isGone then 0 else w.held horizon g) = w.held horizon g := by
  cases hgone : w.isGone with
  | false => rfl
  | true =>
    have hup : e.scene.armed = true := by
      by_contra hdown
      rw [h.silent (by simpa using hdown), List.drop_length] at hw
      cases hw
    have hnot : ¬ w.Lasts horizon := by
      intro hlasts
      have := (h.minds w hw).isGone_iff (h.rest.2 w (List.mem_of_mem_drop hw)) hlasts
      rw [hgone, hup] at this
      cases this
    have hnot : ¬ horizon < w.deadline.instant := hnot
    rw [if_pos rfl]
    cases w <;> cases g <;> simp_all [Worker.held, Worker.deadline]

/-- What the workers that are there hold, deed by deed. -/
theorem sum_held (g : Gauge) :
    ((e.workers.drop n).map (·.held horizon g)).sum =
      ((Deed.sinceStop ds).map (·.held g)).sum := by
  refine sum_map_workers h.young (fun w => by cases w <;> rfl) fun d hd => ?_
  exact Deed.sum_held (h.proper d ((List.rtakeWhile_suffix _ _).subset hd)) g

/-- The counters, deed by deed. -/
theorem gauge_eq (g : Gauge) :
    e.scene.telemetry.gauge g =
      UInt64.ofNat ((ds.map (·.made g)).sum + ((Deed.sinceStop ds).map (·.held g)).sum) := by
  have hmade : (e.workers.map (·.made horizon g)).sum = (ds.map (·.made g)).sum :=
    sum_map_workers h.origins (fun w => by cases w <;> rfl) fun d hd =>
      Deed.sum_made (h.proper d hd) g
  have hgone : ((e.workers.take n).map fun w => if w.isGone then 0 else w.held horizon g).sum =
      0 := by
    apply List.sum_eq_zero
    intro m hm
    obtain ⟨w, hw, rfl⟩ := List.mem_map.1 hm
    rw [if_pos (h.past w hw).1]
  have hrest : (e.workers.map fun w => if w.isGone then 0 else w.held horizon g).sum =
      ((e.workers.drop n).map (·.held horizon g)).sum := by
    conv_lhs => rw [← List.take_append_drop n e.workers]
    rw [List.map_append, List.sum_append, hgone, Nat.zero_add]
    exact congrArg List.sum (List.map_congr_left fun w hw => h.held_eq hw g)
  have htotal : e.total g = (e.workers.map (·.made horizon g)).sum +
      (e.workers.map fun w => if w.isGone then 0 else w.held horizon g).sum := by
    rw [total, ← List.sum_map_add]
    exact congrArg List.sum (List.map_congr_left fun w hw => h.share_eq hw g)
  rw [h.booked.gauge_eq g, htotal, hmade, hrest, h.sum_held g]

/-- A counter that only grows is a sum over all deeds. -/
theorem gauge_eq_made (g : Gauge) {f : Deed BudgetState → Nat}
    (hmade : ∀ d : Deed BudgetState, d.made g = f d)
    (hheld : ∀ d : Deed BudgetState, d.held g = 0) :
    e.scene.telemetry.gauge g = UInt64.ofNat (ds.map f).sum := by
  rw [h.gauge_eq g, funext hmade, funext hheld, List.map_const', List.sum_replicate, smul_zero,
    Nat.add_zero]

/-- The other counters are sums over the deeds since the last stop. -/
theorem gauge_eq_held (g : Gauge) {f : Deed BudgetState → Nat}
    (hmade : ∀ d : Deed BudgetState, d.made g = 0)
    (hheld : ∀ d : Deed BudgetState, d.held g = if d.lasts then f d else 0) :
    e.scene.telemetry.gauge g =
      UInt64.ofNat (((Deed.sinceStop ds).filter Deed.lasts).map f).sum := by
  rw [h.gauge_eq g, funext hmade, funext hheld, List.map_const', List.sum_replicate, smul_zero,
    Nat.zero_add, sum_map_ite]

/-- While the signal is down no worker was launched since the last stop. -/
theorem workers_sinceStop (hdown : e.scene.armed = false) :
    (Deed.sinceStop ds).flatMap Deed.workers = [] := by
  have hyoung := h.young
  rw [h.silent hdown, List.drop_length] at hyoung
  exact List.map_eq_nil_iff.1 hyoung.symm.eq_nil

/-- While the signal is down nobody holds anything. -/
theorem gauge_eq_zero (hdown : e.scene.armed = false) (g : Gauge)
    (hmade : ∀ d : Deed BudgetState, d.made g = 0) : e.scene.telemetry.gauge g = 0 := by
  have hheld := h.sum_held g
  rw [h.silent hdown, List.drop_length, List.map_nil, List.sum_nil] at hheld
  rw [h.gauge_eq g, ← hheld, funext hmade, List.map_const', List.sum_replicate, smul_zero]
  rfl

/-- At rest the signal and the counters are in closed form. -/
theorem closedForm : ClosedForm ds e where
  armed := h.armed
  cpuLaunched := h.gauge_eq_made .cpuLaunched (fun _ => rfl) fun _ => rfl
  memLaunched := h.gauge_eq_made .memLaunched (fun _ => rfl) fun _ => rfl
  cpuActive := h.gauge_eq_held .cpuActive (fun _ => rfl) fun _ => rfl
  memActive := h.gauge_eq_held .memActive (fun _ => rfl) fun _ => rfl
  idle hdown :=
    ⟨h.gauge_eq_zero hdown .cpuActive fun _ => rfl,
      h.gauge_eq_zero hdown .memActive fun _ => rfl⟩
  allocAttempts := by
    rw [← sum_map_ite]
    exact h.gauge_eq_made .attempts (fun _ => rfl) fun _ => rfl
  allocSuccesses := by
    rw [← sum_map_ite]
    exact h.gauge_eq_made .successes (fun _ => rfl) fun _ => rfl
  allocFailures := by
    rw [← sum_map_ite]
    exact h.gauge_eq_made .failures (fun _ => rfl) fun _ => rfl
  sizes := h.sizes
  lastBlockBytes := h.sizes ▸ h.latest
  retainedBlocks := h.gauge_eq_held .retainedBlocks (fun _ => rfl) fun _ => rfl
  retainedBytes := h.gauge_eq_held .retainedBytes (fun _ => rfl) fun _ => rfl

end Rests

end Engine

end ResourceFaults
