import Mathlib
import ResourceFaults.Telemetry.Guards

/-!
# Guards that are held

Guards are numbered in the order of entering, so a list of operations alone tells which of
them are still held: `undropped` are those that are given out and not dropped afterwards,
with their kinds.

* `GuardLedger.held?_run_eq_some_iff` says that a ledger agrees on this with the operations,
  and `GuardLedger.active_run` that its two gauges count these guards.  Both hold for every
  list of operations, also where guards are named that are not held.
* `UsesHeld` are the lists in which no such guard is named.  In them a guard that is given out
  is held exactly if no operation drops it (`UsesHeld.mem_undropped_iff`).
-/

namespace ResourceFaults

/-! ## Counters by kind -/

namespace WorkerKind

/-- The number of active workers of a kind. -/
def active : WorkerKind → Telemetry → UInt64
  | cpu => Telemetry.cpuActive
  | memory => Telemetry.memActive

/-- The number of workers of a kind that have ever entered. -/
def launched : WorkerKind → Telemetry → UInt64
  | cpu => Telemetry.cpuLaunched
  | memory => Telemetry.memLaunched

variable (kind kind' : WorkerKind) (t : Telemetry) (r : Recording)

theorem active_enter : kind.active (t.enter kind') =
    kind.active t + UInt64.ofNat (if kind' = kind then 1 else 0) := by
  cases kind <;> cases kind' <;> simp [Telemetry.enter, active]

theorem active_leave : kind.active (t.leave kind') =
    kind.active t - UInt64.ofNat (if kind' = kind then 1 else 0) := by
  cases kind <;> cases kind' <;> simp [Telemetry.leave, active]

theorem launched_enter : kind.launched (t.enter kind') =
    kind.launched t + UInt64.ofNat (if kind' = kind then 1 else 0) := by
  cases kind <;> cases kind' <;> simp [Telemetry.enter, launched]

@[simp] theorem launched_leave : kind.launched (t.leave kind') = kind.launched t := by
  cases kind <;> cases kind' <;> rfl

@[simp] theorem active_record : kind.active (t.record r) = kind.active t := by
  cases kind <;> cases r <;> rfl

@[simp] theorem launched_record : kind.launched (t.record r) = kind.launched t := by
  cases kind <;> cases r <;> rfl

end WorkerKind

/-! ## What operations say of guards -/

namespace GuardOperation

/-- The kind of the worker that enters. -/
def entrant? : GuardOperation → Option WorkerKind
  | .enter kind => some kind
  | _ => none

/-- The guard that an operation goes through. -/
def guard? : GuardOperation → Option Nat
  | .drop guard => some guard
  | .recordVia guard _ => some guard
  | _ => none

/-- The kinds of the guards that some operations give out, in order. -/
def entrants (ops : List GuardOperation) : List WorkerKind :=
  ops.filterMap entrant?

/-- The guards that some operations give out and do not drop afterwards, with their kinds, if
`n` guards were given out before. -/
def undroppedFrom (n : Nat) : List GuardOperation → List (Nat × WorkerKind)
  | [] => []
  | .enter kind :: ops =>
    if .drop n ∈ ops then undroppedFrom (n + 1) ops else (n, kind) :: undroppedFrom (n + 1) ops
  | _ :: ops => undroppedFrom n ops

/-- The guards that some operations from the start give out and do not drop afterwards. -/
def undropped (ops : List GuardOperation) : List (Nat × WorkerKind) :=
  undroppedFrom 0 ops

/-- Whether an operation finds the guard that it goes through held after some others. -/
def FindsHeld (before : List GuardOperation) (op : GuardOperation) : Prop :=
  ∀ i ∈ op.guard?, i ∈ (undropped before).map Prod.fst

instance (before : List GuardOperation) (op : GuardOperation) : Decidable (op.FindsHeld before) :=
  inferInstanceAs (Decidable (∀ i ∈ op.guard?, i ∈ (undropped before).map Prod.fst))

/-- Whether every operation finds its guard held after those before it. -/
def UsesHeld (ops : List GuardOperation) : Prop :=
  ∀ k, ∀ hk : k < ops.length, ops[k].FindsHeld (ops.take k)

instance (ops : List GuardOperation) : Decidable (UsesHeld ops) :=
  inferInstanceAs (Decidable (∀ k, ∀ hk : k < ops.length, ops[k].FindsHeld (ops.take k)))

variable {ops : List GuardOperation} {op : GuardOperation} {n i : Nat} {kind : WorkerKind}

theorem entrants_concat : entrants (ops ++ [op]) = entrants ops ++ op.entrant?.toList := by
  rw [entrants, List.filterMap_append]
  cases op <;> rfl

/-- One operation more drops at most the guard that it names, and gives out a guard if a worker
enters. -/
theorem undroppedFrom_concat : undroppedFrom n (ops ++ [op]) =
    (undroppedFrom n ops).filter (fun g => .drop g.1 ≠ op) ++
      op.entrant?.toList.map fun kind => (n + (entrants ops).length, kind) := by
  induction ops generalizing n with
  | nil => cases op <;> rfl
  | cons op' ops ih =>
    cases op' with
    | enter kind =>
      have hplace : n + 1 + (entrants ops).length = n + (entrants (.enter kind :: ops)).length :=
        Nat.add_right_comm ..
      rw [List.cons_append, undroppedFrom, undroppedFrom, ih, hplace]
      by_cases hlater : .drop n ∈ ops
      · rw [if_pos (List.mem_append_left _ hlater), if_pos hlater]
      · by_cases hop : .drop n = op
        · subst hop
          rw [if_pos (List.mem_append_right _ List.mem_cons_self), if_neg hlater,
            List.filter_cons_of_neg (by simp)]
        · simp [hlater, hop]
    | _ => exact ih

theorem undropped_concat : undropped (ops ++ [op]) =
    (undropped ops).filter (fun g => .drop g.1 ≠ op) ++
      op.entrant?.toList.map fun kind => ((entrants ops).length, kind) := by
  rw [undropped, undroppedFrom_concat, Nat.zero_add]
  rfl

/-- A guard that is held is of the kind of its entrant. -/
theorem getElem?_entrants_of_mem (h : (i, kind) ∈ undropped ops) :
    (entrants ops)[i]? = some kind := by
  induction ops using List.reverseRecOn with
  | nil => exact nomatch h
  | append_singleton ops op ih =>
    rw [undropped_concat, List.mem_append] at h
    rw [entrants_concat]
    rcases h with h | h
    · have hi := ih (List.mem_of_mem_filter h)
      rwa [List.getElem?_append_left (List.getElem?_eq_some_iff.1 hi).1]
    · obtain ⟨kind', hkind, heq⟩ := List.mem_map.1 h
      obtain ⟨rfl, rfl⟩ := Prod.mk.inj heq
      rw [Option.mem_toList.1 hkind]
      exact List.getElem?_concat_length

theorem lt_of_mem_undropped (h : i ∈ (undropped ops).map Prod.fst) :
    i < (entrants ops).length := by
  obtain ⟨⟨i, kind⟩, hmem, rfl⟩ := List.mem_map.1 h
  exact (List.getElem?_eq_some_iff.1 (getElem?_entrants_of_mem hmem)).1

/-- No guard is listed twice. -/
theorem nodup_undropped (ops : List GuardOperation) : ((undropped ops).map Prod.fst).Nodup := by
  induction ops using List.reverseRecOn with
  | nil => exact List.nodup_nil
  | append_singleton ops op ih =>
    rw [undropped_concat, List.map_append]
    refine List.nodup_append'.2 ⟨ih.sublist (List.filter_sublist.map _), ?_, ?_⟩
    · cases op.entrant? <;> simp
    · -- a new guard has a number that no earlier one has
      intro i hold hnew
      have hlt := lt_of_mem_undropped ((List.filter_sublist.map _).subset hold)
      rw [List.map_map, List.mem_map] at hnew
      obtain ⟨_, -, heq⟩ := hnew
      exact hlt.ne' heq

/-- A held guard beside the others. -/
theorem perm_cons_filter (h : (i, kind) ∈ undropped ops) :
    (undropped ops).Perm ((i, kind) :: (undropped ops).filter fun g => drop g.1 ≠ drop i) := by
  have hnodup := nodup_undropped ops
  have herase : (undropped ops).erase (i, kind) =
      (undropped ops).filter fun g => drop g.1 ≠ drop i := by
    rw [hnodup.of_map.erase_eq_filter]
    refine List.filter_congr fun g hg => ?_
    have hiff : g = (i, kind) ↔ g.1 = i :=
      ⟨congrArg Prod.fst, List.inj_on_of_nodup_map hnodup hg h⟩
    simp only [bne, beq_eq_decide, hiff, ne_eq, drop.injEq, decide_not]
  rw [← herase]
  exact List.perm_cons_erase h

theorem usesHeld_concat_iff : UsesHeld (ops ++ [op]) ↔ UsesHeld ops ∧ op.FindsHeld ops := by
  have htake : ∀ k ≤ ops.length, (ops ++ [op]).take k = ops.take k := fun k hk =>
    List.take_append_of_le_length hk
  constructor
  · intro h
    constructor
    · intro k hk
      have hheld := h k (by rw [List.length_append]; omega)
      rwa [List.getElem_append_left hk, htake k hk.le] at hheld
    · have hheld := h ops.length (by simp)
      rwa [List.getElem_concat_length rfl, htake _ le_rfl, List.take_length] at hheld
  · rintro ⟨h, hop⟩ k hk
    rcases Nat.lt_or_ge k ops.length with hlt | hge
    · rw [List.getElem_append_left hlt, htake k hlt.le]
      exact h k hlt
    · rw [List.length_append, List.length_singleton] at hk
      obtain rfl : k = ops.length := by omega
      rwa [List.getElem_concat_length rfl, htake _ le_rfl, List.take_length]

namespace UsesHeld

/-- Guards are dropped only after they are given out. -/
theorem lt_of_drop_mem (h : UsesHeld ops) (hmem : .drop i ∈ ops) : i < (entrants ops).length := by
  induction ops using List.reverseRecOn with
  | nil => exact nomatch hmem
  | append_singleton ops op ih =>
    obtain ⟨hops, hop⟩ := usesHeld_concat_iff.1 h
    have hlt : i < (entrants ops).length := by
      rcases List.mem_append.1 hmem with hmem | hmem
      · exact ih hops hmem
      · obtain rfl := List.mem_singleton.1 hmem
        exact lt_of_mem_undropped (hop i rfl)
    rw [entrants_concat, List.length_append]
    exact Nat.lt_add_right _ hlt

/-- A guard that is given out is held exactly if no operation drops it. -/
theorem mem_undropped_iff (h : UsesHeld ops) :
    (i, kind) ∈ undropped ops ↔ (entrants ops)[i]? = some kind ∧ .drop i ∉ ops := by
  induction ops using List.reverseRecOn with
  | nil => simp [undropped, undroppedFrom, entrants]
  | append_singleton ops op ih =>
    obtain ⟨hops, -⟩ := usesHeld_concat_iff.1 h
    rw [undropped_concat, entrants_concat, List.mem_append, List.mem_filter, ih hops]
    cases op with
    | enter kind' =>
      -- the guard that is given out last cannot have been dropped before
      have hlast : i = (entrants ops).length → .drop i ∉ ops := fun hi hmem =>
        (hops.lt_of_drop_mem hmem).ne hi
      rcases Nat.lt_trichotomy i (entrants ops).length with hi | hi | hi
      · simp [entrant?, List.getElem?_append_left hi, hi.ne]
      · simp [entrant?, ← hi, hlast hi, eq_comm]
      · have hnone : (entrants ops ++ [kind'])[i]? = none := by simp [hi]
        simp [entrant?, hnone, hi.ne', hi.le]
    | _ => simp [entrant?, and_assoc]

end UsesHeld

end GuardOperation

namespace GuardLedger

open GuardOperation

variable {l : GuardLedger} {ops : List GuardOperation} {op : GuardOperation} {i j : Nat}
  {kind : WorkerKind} {r : Recording}

/-! ## The guards of a ledger -/

theorem run_concat (l : GuardLedger) (ops : List GuardOperation) (op : GuardOperation) :
    l.run (ops ++ [op]) = (l.run ops).perform op :=
  List.foldl_concat ..

/-- Through a guard something is recorded as it is directly, or not at all. -/
theorem perform_recordVia (l : GuardLedger) (j : Nat) (r : Recording) :
    l.perform (.recordVia j r) = l ∨ l.perform (.recordVia j r) = l.perform (.record r) := by
  rw [perform, perform]
  cases l.held? j with
  | none => exact .inl rfl
  | some kind => exact .inr rfl

@[simp] theorem guards_recordVia : (l.perform (.recordVia j r)).guards = l.guards := by
  rcases l.perform_recordVia j r with h | h <;> rw [h]
  rfl

@[simp] theorem active_recordVia :
    kind.active (l.perform (.recordVia j r)).telemetry = kind.active l.telemetry := by
  rcases l.perform_recordVia j r with h | h <;> rw [h]
  exact WorkerKind.active_record ..

@[simp] theorem launched_recordVia :
    kind.launched (l.perform (.recordVia j r)).telemetry = kind.launched l.telemetry := by
  rcases l.perform_recordVia j r with h | h <;> rw [h]
  exact WorkerKind.launched_record ..

theorem length_guards_perform :
    (l.perform op).guards.length = l.guards.length + op.entrant?.toList.length := by
  cases op with
  | enter kind => exact List.length_append
  | drop j => cases hj : l.held? j <;> simp [perform, hj, entrant?]
  | record r => rfl
  | recordVia j r => exact congrArg List.length guards_recordVia

theorem length_guards_run : (run {} ops).guards.length = (entrants ops).length := by
  induction ops using List.reverseRecOn with
  | nil => rfl
  | append_singleton ops op ih =>
    rw [run_concat, length_guards_perform, ih, entrants_concat, List.length_append]

/-- A guard is held after an operation that gives it out, or if it was held before and is not
dropped. -/
theorem held?_perform_eq_some_iff : (l.perform op).held? i = some kind ↔
    l.held? i = some kind ∧ .drop i ≠ op ∨ i = l.guards.length ∧ op.entrant? = some kind := by
  cases op with
  | enter kind' =>
    rcases Nat.lt_trichotomy i l.guards.length with hi | hi | hi
    · simp [perform, held?, entrant?, List.getElem?_append_left hi, hi.ne]
    · simp [perform, held?, entrant?, hi]
    · have hnone : (l.guards ++ [some kind'])[i]? = none := by simp [hi]
      simp [perform, held?, entrant?, hnone, hi.ne', hi.le]
  | drop j =>
    cases hj : l.held? j with
    | none =>
      have hne : l.held? i = some kind → i ≠ j := by
        rintro hi rfl
        exact nomatch hj.symm.trans hi
      rw [perform, hj]
      simpa [entrant?] using hne
    | some kind' =>
      rw [perform, hj]
      rcases eq_or_ne i j with rfl | hne
      · have hnone : (l.guards.set i none)[i]?.getD none = none := by
          rw [List.getElem?_set_self']
          cases l.guards[i]? <;> rfl
        simp [entrant?, held?, hnone]
      · simp [entrant?, held?, List.getElem?_set_ne hne.symm, hne]
  | record r => simp [perform, held?, entrant?]
  | recordVia j r => simp [held?, entrant?]

/-- A guard is held exactly if it was given out and not dropped since. -/
theorem held?_run_eq_some_iff :
    (run {} ops).held? i = some kind ↔ (i, kind) ∈ undropped ops := by
  induction ops using List.reverseRecOn with
  | nil => simp [run, held?, undropped, undroppedFrom]
  | append_singleton ops op ih =>
    rw [run_concat, held?_perform_eq_some_iff, ih, length_guards_run, undropped_concat,
      List.mem_append, List.mem_filter, decide_eq_true_iff]
    simp [eq_comm, and_comm]

/-- Dropping a guard that is not held leaves those that are held. -/
theorem filter_undropped_of_not_held (h : (run {} ops).held? i = none) :
    (undropped ops).filter (fun g => drop g.1 ≠ drop i) = undropped ops := by
  rw [List.filter_eq_self]
  rintro ⟨j, kind⟩ hmem
  have hne : j ≠ i := by
    rintro rfl
    exact nomatch h.symm.trans (held?_run_eq_some_iff.2 hmem)
  simp [hne]

/-! ## Counting workers -/

/-- Each of the two gauges counts the guards of its kind that are held. -/
theorem active_run (ops : List GuardOperation) (kind : WorkerKind) :
    kind.active (run {} ops).telemetry =
      UInt64.ofNat ((undropped ops).countP fun g => g.2 = kind) := by
  induction ops using List.reverseRecOn with
  | nil => cases kind <;> rfl
  | append_singleton ops op ih =>
    rw [run_concat, undropped_concat, List.countP_append]
    cases op with
    | enter kind' =>
      rw [perform, WorkerKind.active_enter, ih, ← UInt64.ofNat_add]
      simp [entrant?, List.countP_cons]
    | drop i =>
      simp only [entrant?, Option.toList_none, List.map_nil, List.countP_nil, Nat.add_zero]
      cases hi : (run {} ops).held? i with
      | none => rw [perform, hi, ih, filter_undropped_of_not_held hi]
      | some kind' =>
        have hmem := held?_run_eq_some_iff.1 hi
        rw [perform, hi, WorkerKind.active_leave, ih, (perm_cons_filter hmem).countP_eq,
          List.countP_cons, UInt64.ofNat_add]
        simp
    | record r =>
      rw [perform, WorkerKind.active_record, ih]
      simp [entrant?]
    | recordVia i r =>
      rw [active_recordVia, ih]
      simp [entrant?]

/-- Each of the two counters of launched workers counts those that have entered. -/
theorem launched_run (ops : List GuardOperation) (kind : WorkerKind) :
    kind.launched (run {} ops).telemetry = UInt64.ofNat (ops.count (.enter kind)) := by
  induction ops using List.reverseRecOn with
  | nil => cases kind <;> rfl
  | append_singleton ops op ih =>
    rw [run_concat, List.count_append]
    cases op with
    | enter kind' =>
      rw [perform, WorkerKind.launched_enter, ih, ← UInt64.ofNat_add]
      simp [List.count_singleton]
    | drop i =>
      cases hi : (run {} ops).held? i <;> simp [perform, hi, ih]
    | record r =>
      rw [perform, WorkerKind.launched_record, ih]
      simp
    | recordVia i r =>
      rw [launched_recordVia, ih]
      simp

end GuardLedger

end ResourceFaults
