import Mathlib
import ResourceFaults.Proofs.Telemetry.Guards
import ResourceFaults.Proofs.Telemetry.Recordings

/-!
# Counters in closed form, in any order

What the counters hold is told by the operations alone, modulo `2 ^ 64` and in every order:

* `RecordedCounter` are the counters that recordings move.  Each of them holds what was added
  to it less what was taken from it (`RecordedCounter.read_run`).
* `GuardLedger.Reflects` says in closed form what all twelve counters hold, for any list of
  operations.
* `GuardOperation.IsReordering` are the same operations in another order.  Guards are numbered
  in the order of entering, so a reordering gives them other numbers.  As long as every guard
  is used only while it is held, all counters stay the same but the one that is overwritten
  (`GuardLedger.reflects_in_any_order`).
-/

namespace ResourceFaults

/-! ## Counters that recordings move -/

/-- The counters to which recordings add something or from which they take something. -/
inductive RecordedCounter where
  | total (c : TotalCounter)
  | cpuProgressed
  | retainedBlocks
  | retainedBytes
  deriving DecidableEq, Repr

namespace RecordedCounter

/-- What a counter holds. -/
def read : RecordedCounter → Telemetry → UInt64
  | total c => c.read
  | cpuProgressed => Telemetry.cpuProgressed
  | retainedBlocks => Telemetry.retainedBlocks
  | retainedBytes => Telemetry.retainedBytes

/-- How much a recording adds to a counter. -/
def gain : RecordedCounter → Recording → Nat
  | total c, r => c.amount r
  | cpuProgressed, .progress => 1
  | retainedBlocks, .retain _ => 1
  | retainedBytes, .retain bytes => bytes.toNat
  | _, _ => 0

/-- How much a recording takes from a counter. -/
def loss : RecordedCounter → Recording → Nat
  | retainedBlocks, .release blocks _ => blocks.toNat
  | retainedBytes, .release _ bytes => bytes.toNat
  | _, _ => 0

/-- How much some recordings add to a counter. -/
def gained (c : RecordedCounter) (rs : List Recording) : Nat :=
  (rs.map c.gain).sum

/-- How much some recordings take from a counter. -/
def lost (c : RecordedCounter) (rs : List Recording) : Nat :=
  (rs.map c.loss).sum

variable {c : RecordedCounter} {l : GuardLedger} {ops : List GuardOperation}
  {rs rs' : List Recording}

theorem gained_perm (h : rs.Perm rs') : c.gained rs = c.gained rs' :=
  (h.map _).sum_eq

theorem lost_perm (h : rs.Perm rs') : c.lost rs = c.lost rs' :=
  (h.map _).sum_eq

theorem read_enter (t : Telemetry) (kind : WorkerKind) : c.read (t.enter kind) = c.read t := by
  cases c with
  | total c => exact c.read_enter t kind
  | _ => cases kind <;> rfl

theorem read_leave (t : Telemetry) (kind : WorkerKind) : c.read (t.leave kind) = c.read t := by
  cases c with
  | total c => exact c.read_leave t kind
  | _ => cases kind <;> rfl

theorem read_record (t : Telemetry) (r : Recording) : c.read (t.record r) =
    c.read t + UInt64.ofNat (c.gain r) - UInt64.ofNat (c.loss r) := by
  cases c with
  | total c => exact (c.read_record t r).trans (UInt64.sub_zero _).symm
  | cpuProgressed => cases r <;> simp [read, Telemetry.record, gain, loss]
  | retainedBlocks => cases r <;> simp [read, Telemetry.record, gain, loss]
  | retainedBytes => cases r <;> simp [read, Telemetry.record, gain, loss]

theorem foldl_gain_loss (x : UInt64) :
    rs.foldl (fun x r => x + UInt64.ofNat (c.gain r) - UInt64.ofNat (c.loss r)) x =
      x + UInt64.ofNat (c.gained rs) - UInt64.ofNat (c.lost rs) := by
  induction rs generalizing x with
  | nil => simp [gained, lost]
  | cons r rs ih =>
    rw [List.foldl_cons, ih]
    simp only [gained, lost, List.map_cons, List.sum_cons, UInt64.ofNat_add]
    grind

/-- A counter holds what a course has added to it less what it has taken from it. -/
theorem read_run : c.read (l.run ops).telemetry = c.read l.telemetry +
    UInt64.ofNat (c.gained (l.recordings ops)) - UInt64.ofNat (c.lost (l.recordings ops)) := by
  rw [GuardLedger.read_run_of_record
    (f := fun x r => x + UInt64.ofNat (c.gain r) - UInt64.ofNat (c.loss r))
    read_enter read_leave read_record, foldl_gain_loss]

theorem read_start (c : RecordedCounter) : c.read {} = 0 := by
  cases c with
  | total c => cases c <;> rfl
  | _ => rfl

end RecordedCounter

/-- All counters but one are told by kind of worker or moved by recordings. -/
theorem Telemetry.eq_of_read {t t' : Telemetry}
    (hactive : ∀ kind : WorkerKind, kind.active t' = kind.active t)
    (hlaunched : ∀ kind : WorkerKind, kind.launched t' = kind.launched t)
    (hread : ∀ c : RecordedCounter, c.read t' = c.read t) :
    t' = { t with lastBlockBytes := t'.lastBlockBytes } := by
  cases t
  cases t'
  simp only [Telemetry.mk.injEq]
  exact ⟨hactive .cpu, hlaunched .cpu, hread (.total .cpuIterations), hread .cpuProgressed,
    hactive .memory, hlaunched .memory, hread (.total .allocAttempts),
    hread (.total .allocSuccesses), hread (.total .allocFailures), trivial, hread .retainedBlocks,
    hread .retainedBytes⟩

/-! ## The counter that is overwritten -/

namespace Recording

/-- The size of a block that is attempted. -/
def attempted? : Recording → Option UInt64
  | .attempt bytes => some bytes
  | _ => none

/-- The sizes of the blocks that some recordings attempt. -/
def attempted (rs : List Recording) : List UInt64 :=
  rs.filterMap attempted?

theorem foldl_attempted (rs : List Recording) (x : UInt64) :
    rs.foldl (fun x r => r.attempted?.getD x) x = (attempted rs).getLastD x := by
  induction rs generalizing x with
  | nil => rfl
  | cons r rs ih =>
    rw [List.foldl_cons, ih]
    cases r with
    | attempt bytes => exact (List.getLastD_cons ..).symm
    | _ => rfl

end Recording

namespace GuardLedger

theorem lastBlockBytes_run (l : GuardLedger) (ops : List GuardOperation) :
    (l.run ops).telemetry.lastBlockBytes =
      (Recording.attempted (l.recordings ops)).getLastD l.telemetry.lastBlockBytes := by
  have hrecord : ∀ (t : Telemetry) r,
      (t.record r).lastBlockBytes = (Recording.attempted? r).getD t.lastBlockBytes := by
    intro t r
    cases r <;> rfl
  rw [read_run_of_record (f := fun x r => (Recording.attempted? r).getD x)
    (fun t kind => by cases kind <;> rfl) (fun t kind => by cases kind <;> rfl) hrecord,
    Recording.foldl_attempted]

end GuardLedger

/-! ## What operations record -/

namespace GuardOperation

/-- What an operation is to record. -/
def recording? : GuardOperation → Option Recording
  | .record r => some r
  | .recordVia _ r => some r
  | _ => none

/-- What some operations record after others; nothing through a guard that is not held. -/
def recordedAfter (before : List GuardOperation) : List GuardOperation → List Recording
  | [] => []
  | op :: ops =>
    (if op.FindsHeld before then op.recording?.toList else []) ++ recordedAfter (before ++ [op]) ops

/-- What some operations record from the start. -/
def recorded (ops : List GuardOperation) : List Recording :=
  recordedAfter [] ops

variable {before ops : List GuardOperation} {op : GuardOperation}

theorem UsesHeld.findsHeld (h : UsesHeld (before ++ op :: ops)) : op.FindsHeld before := by
  simpa using h before.length (by simp)

theorem UsesHeld.recordedAfter_eq (h : UsesHeld (before ++ ops)) :
    recordedAfter before ops = ops.filterMap recording? := by
  induction ops generalizing before with
  | nil => rfl
  | cons op ops ih =>
    rw [recordedAfter, if_pos h.findsHeld, ih (List.append_cons .. ▸ h), List.filterMap_cons]
    cases op <;> rfl

/-- Through guards that are held everything is recorded. -/
theorem UsesHeld.recorded_eq (h : UsesHeld ops) : recorded ops = ops.filterMap recording? :=
  recordedAfter_eq h

end GuardOperation

namespace GuardLedger

open GuardOperation

variable {before ops : List GuardOperation} {op : GuardOperation}

theorem recorded?_run : ((run {} before).recorded? op).toList =
    if op.FindsHeld before then op.recording?.toList else [] := by
  cases op with
  | enter kind => exact (if_pos nofun).symm
  | drop i => exact (ite_self []).symm
  | record r => exact (if_pos nofun).symm
  | recordVia i r =>
    have hfinds : (recordVia i r).FindsHeld before ↔
        ∃ kind, (run {} before).held? i = some kind := by
      simp [FindsHeld, guard?, held?_run_eq_some_iff]
    cases hi : (run {} before).held? i with
    | none => simp [recorded?, hfinds, hi]
    | some kind => simp [recorded?, recording?, hfinds, hi]

/-- The recordings of a course are told by its operations. -/
theorem recordings_run (before ops : List GuardOperation) :
    (run {} before).recordings ops = recordedAfter before ops := by
  induction ops generalizing before with
  | nil => rfl
  | cons op ops ih => rw [recordings, recordedAfter, recorded?_run, ← run_concat, ih]

theorem recordings_start (ops : List GuardOperation) : recordings {} ops = recorded ops :=
  recordings_run [] ops

end GuardLedger

/-! ## Operations in another order -/

namespace GuardOperation

/-- The same operation where every guard `i` has the number `σ i`. -/
def renumber (σ : Equiv.Perm ℕ) : GuardOperation → GuardOperation
  | .enter kind => .enter kind
  | .drop guard => .drop (σ guard)
  | .record r => .record r
  | .recordVia guard r => .recordVia (σ guard) r

/-- Whether `ops'` are the operations `ops` in another order.  Guards are numbered in the order of
entering, so that the guard `i` of `ops` has another number in `ops'`, which is `σ i`. -/
structure IsReordering (σ : Equiv.Perm ℕ) (ops ops' : List GuardOperation) : Prop where
  perm : ops'.Perm (ops.map (renumber σ))
  /-- The guard is of the same kind under both numbers. -/
  kind_eq : ∀ i, (entrants ops')[σ i]? = (entrants ops)[i]?

variable {σ : Equiv.Perm ℕ} {ops ops' : List GuardOperation} {op : GuardOperation}

theorem renumber_injective (σ : Equiv.Perm ℕ) : Function.Injective (renumber σ) := by
  intro op op' h
  cases op <;> cases op' <;> simp_all [renumber]

theorem recording?_comp_renumber (σ : Equiv.Perm ℕ) : recording? ∘ renumber σ = recording? := by
  funext op
  cases op <;> rfl

namespace IsReordering

theorem count_enter (h : IsReordering σ ops ops') (kind : WorkerKind) :
    ops'.count (.enter kind) = ops.count (.enter kind) := by
  rw [h.perm.count_eq]
  exact List.count_map_of_injective ops (renumber σ) (renumber_injective σ) (.enter kind)

theorem drop_mem_iff (h : IsReordering σ ops ops') (i : Nat) :
    .drop (σ i) ∈ ops' ↔ .drop i ∈ ops := by
  rw [h.perm.mem_iff]
  exact List.mem_map_of_injective (f := renumber σ) (a := .drop i) (renumber_injective σ)

theorem recording_perm (h : IsReordering σ ops ops') :
    (ops'.filterMap recording?).Perm (ops.filterMap recording?) := by
  have hperm := h.perm.filterMap recording?
  rwa [List.filterMap_map, recording?_comp_renumber] at hperm

/-- The same guards are held in the end. -/
theorem undropped_perm (h : IsReordering σ ops ops') (hops : UsesHeld ops)
    (hops' : UsesHeld ops') : (undropped ops').Perm ((undropped ops).map (Prod.map σ id)) := by
  have hinj : Function.Injective (Prod.map σ (id : WorkerKind → WorkerKind)) :=
    σ.injective.prodMap Function.injective_id
  have hnodup := (nodup_undropped ops).of_map.map hinj
  rw [List.perm_ext_iff_of_nodup (nodup_undropped ops').of_map hnodup]
  rintro ⟨j, kind⟩
  obtain ⟨i, rfl⟩ := σ.surjective j
  calc (σ i, kind) ∈ undropped ops'
    _ ↔ (entrants ops')[σ i]? = some kind ∧ .drop (σ i) ∉ ops' := hops'.mem_undropped_iff
    _ ↔ (entrants ops)[i]? = some kind ∧ .drop i ∉ ops := by rw [h.kind_eq, h.drop_mem_iff]
    _ ↔ (i, kind) ∈ undropped ops := hops.mem_undropped_iff.symm
    _ ↔ (σ i, kind) ∈ (undropped ops).map (Prod.map σ id) :=
      (List.mem_map_of_injective hinj (a := (i, kind))).symm

end IsReordering

end GuardOperation

/-! ## The ledger of a list of operations -/

namespace GuardLedger

open GuardOperation

variable {ops ops' : List GuardOperation}

theorem length_undropped (ops : List GuardOperation) : (undropped ops).length =
    (undropped ops).countP (fun g => g.2 = .cpu) +
      (undropped ops).countP (fun g => g.2 = .memory) := by
  rw [List.length_eq_countP_add_countP fun g : Nat × WorkerKind => g.2 = .cpu]
  refine congrArg _ (List.countP_congr fun g _ => ?_)
  cases g.2 <;> simp

/-- The number of workers of both kinds does not overflow if it fits. -/
theorem activeWorkers?_run (hfit : (undropped ops).length < 2 ^ 64) :
    ∃ n, (run {} ops).telemetry.activeWorkers? = some n ∧ n.toNat = (undropped ops).length := by
  have hcpu : (run {} ops).telemetry.cpuActive = _ := active_run ops .cpu
  have hmemory : (run {} ops).telemetry.memActive = _ := active_run ops .memory
  have hlength := length_undropped ops
  generalize (undropped ops).countP (fun g => g.2 = .cpu) = cpus at hcpu hlength
  generalize (undropped ops).countP (fun g => g.2 = .memory) = memories at hmemory hlength
  have hsum : (UInt64.ofNat cpus).toNat + (UInt64.ofNat memories).toNat = cpus + memories := by
    rw [UInt64.toNat_ofNat', UInt64.toNat_ofNat', Nat.mod_eq_of_lt (by omega),
      Nat.mod_eq_of_lt (by omega)]
  have hmax : maxWord = 2 ^ 64 - 1 := rfl
  refine ⟨UInt64.ofNat cpus + UInt64.ofNat memories, ?_, ?_⟩
  · rw [Telemetry.activeWorkers?, hcpu, hmemory, if_pos (by omega)]
  · rw [UInt64.toNat_add, hsum, hlength, Nat.mod_eq_of_lt (by omega)]

/-- In another order the same is counted. -/
theorem telemetry_of_isReordering {σ : Equiv.Perm ℕ} (h : IsReordering σ ops ops')
    (hops : UsesHeld ops) (hops' : UsesHeld ops') :
    (run {} ops').telemetry =
      { (run {} ops).telemetry with
        lastBlockBytes := (run {} ops').telemetry.lastBlockBytes } := by
  refine Telemetry.eq_of_read (fun kind => ?_) (fun kind => ?_) fun c => ?_
  · rw [active_run, active_run, (h.undropped_perm hops hops').countP_eq, List.countP_map]
    rfl
  · rw [launched_run, launched_run, h.count_enter]
  · rw [c.read_run, c.read_run, recordings_start, recordings_start, hops.recorded_eq,
      hops'.recorded_eq, c.gained_perm h.recording_perm, c.lost_perm h.recording_perm]

/-- What a ledger says of the operations that have led to it. -/
structure Reflects (l : GuardLedger) (ops : List GuardOperation) : Prop where
  /-- A guard is held exactly if it was given out and not dropped since. -/
  held_iff : ∀ (i : Nat) (kind : WorkerKind), l.held? i = some kind ↔ (i, kind) ∈ undropped ops
  active_eq : ∀ kind : WorkerKind,
    kind.active l.telemetry = UInt64.ofNat ((undropped ops).countP fun g => g.2 = kind)
  launched_eq : ∀ kind : WorkerKind,
    kind.launched l.telemetry = UInt64.ofNat (ops.count (.enter kind))
  recorded_eq : ∀ c : RecordedCounter, c.read l.telemetry =
    UInt64.ofNat (c.gained (recorded ops)) - UInt64.ofNat (c.lost (recorded ops))
  lastBlockBytes_eq :
    l.telemetry.lastBlockBytes = (Recording.attempted (recorded ops)).getLastD 0
  /-- The number of workers does not overflow if it fits. -/
  activeWorkers?_eq : (undropped ops).length < 2 ^ 64 →
    ∃ n, l.telemetry.activeWorkers? = some n ∧ n.toNat = (undropped ops).length

theorem reflects_run (ops : List GuardOperation) : Reflects (run {} ops) ops := by
  constructor
  case held_iff => exact fun _ _ => held?_run_eq_some_iff
  case active_eq => exact active_run ops
  case launched_eq => exact launched_run ops
  case recorded_eq =>
    intro c
    rw [c.read_run, c.read_start, UInt64.zero_add, recordings_start]
  case lastBlockBytes_eq => rw [lastBlockBytes_run, recordings_start]
  case activeWorkers?_eq => exact activeWorkers?_run

/-- After any operations the counters are in closed form what the operations have done.  In
another order, with every guard used only while it is held, the same operations leave the same
counters, up to the size of the latest attempt. -/
theorem reflects_in_any_order (ops : List GuardOperation) :
    Reflects (run {} ops) ops ∧
      ∀ (σ : Equiv.Perm ℕ) (ops' : List GuardOperation), IsReordering σ ops ops' → UsesHeld ops →
        UsesHeld ops' → (run {} ops').telemetry =
          { (run {} ops).telemetry with
            lastBlockBytes := (run {} ops').telemetry.lastBlockBytes } :=
  ⟨reflects_run ops, fun _ _ h hops hops' => telemetry_of_isReordering h hops hops'⟩

/-- A CPU worker and a memory worker enter, in either order.  The iterations go round the end of
a word, more blocks are let go than were kept, and the latest attempt is another one. -/
theorem reflects_in_any_order_of_two_workers :
    let ops : List GuardOperation :=
      [.enter .cpu, .enter .memory, .recordVia 0 (.iterations 18446744073709551615),
        .recordVia 1 (.attempt 4096), .recordVia 1 (.retain 4096), .record (.iterations 2),
        .drop 0, .recordVia 1 (.attempt 8192), .record (.release 3 4096)]
    let ops' : List GuardOperation :=
      [.enter .memory, .recordVia 0 (.attempt 8192), .record (.iterations 2), .enter .cpu,
        .record (.release 3 4096), .recordVia 0 (.attempt 4096),
        .recordVia 1 (.iterations 18446744073709551615), .drop 1, .recordVia 0 (.retain 4096)]
    IsReordering (Equiv.swap 0 1) ops ops' ∧ UsesHeld ops ∧ UsesHeld ops' ∧
      (run {} ops).telemetry.lastBlockBytes = 8192 ∧
      (run {} ops').telemetry = { (run {} ops).telemetry with lastBlockBytes := 4096 } ∧
      (run {} ops).telemetry.cpuIterations = 1 ∧
      (run {} ops).telemetry.retainedBlocks = 18446744073709551614 ∧
      ∃ n, (run {} ops).telemetry.activeWorkers? = some n ∧ n.toNat = 1 := by
  intro ops ops'
  have hreordering : IsReordering (Equiv.swap 0 1) ops ops' := by
    constructor
    case perm => decide
    case kind_eq =>
      intro i
      rcases i with _ | _ | i
      · rfl
      · rfl
      · rw [Equiv.swap_apply_of_ne_of_ne (by omega) (by omega)]
        rfl
  have hops : UsesHeld ops := by decide
  have hops' : UsesHeld ops' := by decide
  obtain ⟨hreflects, hsame⟩ := reflects_in_any_order ops
  exact ⟨hreordering, hops, hops', hreflects.lastBlockBytes_eq, hsame _ ops' hreordering hops hops',
    (hreflects.recorded_eq (.total .cpuIterations)).trans (by decide),
    (hreflects.recorded_eq .retainedBlocks).trans (by decide),
    hreflects.activeWorkers?_eq (by decide)⟩

end GuardLedger

end ResourceFaults
