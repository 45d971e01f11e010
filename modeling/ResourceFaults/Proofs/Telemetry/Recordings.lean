import Mathlib
import ResourceFaults.Telemetry.Guards

/-!
# What a course of operations records

An operation records something directly or through a guard that is still held; the
recordings of a course are those that reach the counters (`GuardLedger.recordings`).

* `TotalCounter` are the counters that a report totals.  Each of them holds the sum of what
  the course has recorded for it (`TotalCounter.read_run`), so that it grows from one
  moment of the course to a later one as long as the sum stays within 64 bits
  (`TotalCounter.read_mono`).
* `Recording.FollowAttempts.results_le` counts the results of a course in which every
  result has an attempt of its own before it.
-/

namespace ResourceFaults

/-! ## Recordings -/

namespace GuardLedger

variable {l : GuardLedger} {op : GuardOperation} {ops ops' : List GuardOperation}

/-- What an operation records; nothing through a guard that is not held. -/
def recorded? (l : GuardLedger) : GuardOperation → Option Recording
  | .record r => some r
  | .recordVia guard r => (l.held? guard).map fun _ => r
  | _ => none

/-- What some operations record, in order. -/
def recordings (l : GuardLedger) : List GuardOperation → List Recording
  | [] => []
  | op :: ops => (l.recorded? op).toList ++ recordings (l.perform op) ops

theorem recordings_append :
    l.recordings (ops ++ ops') = l.recordings ops ++ (l.run ops).recordings ops' := by
  induction ops generalizing l with
  | nil => rfl
  | cons op ops ih =>
    rw [List.cons_append, recordings, ih, recordings, List.append_assoc]
    rfl

/-- What a course has recorded by one moment it has also recorded by a later one. -/
theorem prefix_recordings_take {n n' : Nat} (h : n ≤ n') :
    l.recordings (ops.take n) <+: l.recordings (ops.take n') := by
  obtain ⟨rest, hrest⟩ : ops.take n <+: ops.take n' := List.take_prefix_take_left h
  rw [← hrest, recordings_append]
  exact List.prefix_append _ _

theorem prefix_recordings (l : GuardLedger) (ops : List GuardOperation) (n : Nat) :
    l.recordings (ops.take n) <+: l.recordings ops := by
  obtain ⟨rest, hrest⟩ := List.take_prefix n ops
  nth_rewrite 2 [← hrest]
  rw [recordings_append]
  exact List.prefix_append _ _

section

variable {α : Type} {read : Telemetry → α} {f : α → Recording → α}
  (henter : ∀ t kind, read (Telemetry.enter t kind) = read t)
  (hleave : ∀ t kind, read (Telemetry.leave t kind) = read t)
  (hrecord : ∀ t r, read (Telemetry.record t r) = f (read t) r)

include henter hleave hrecord

/-- What only recordings change is changed by what an operation records. -/
theorem read_perform_of_record (l : GuardLedger) (op : GuardOperation) :
    read (l.perform op).telemetry = (l.recorded? op).toList.foldl f (read l.telemetry) := by
  cases op with
  | enter kind => exact henter _ _
  | drop guard =>
    cases hheld : l.held? guard with
    | none =>
      rw [perform, hheld]
      rfl
    | some kind =>
      rw [perform, hheld]
      exact hleave _ _
  | record r => exact hrecord _ _
  | recordVia guard r =>
    cases hheld : l.held? guard with
    | none =>
      rw [perform, recorded?, hheld]
      rfl
    | some kind =>
      rw [perform, recorded?, hheld]
      exact hrecord _ _

/-- Over a course it is changed by what the course records. -/
theorem read_run_of_record (l : GuardLedger) (ops : List GuardOperation) :
    read (l.run ops).telemetry = (l.recordings ops).foldl f (read l.telemetry) := by
  induction ops generalizing l with
  | nil => rfl
  | cons op ops ih =>
    rw [recordings, List.foldl_append, ← read_perform_of_record henter hleave hrecord]
    exact ih (l.perform op)

end

end GuardLedger

/-! ## Counters that only grow -/

/-- The counters that a report totals. -/
inductive TotalCounter where
  | cpuIterations
  | allocAttempts
  | allocSuccesses
  | allocFailures
  deriving DecidableEq, Repr

namespace TotalCounter

open GuardLedger

/-- What a counter holds. -/
def read : TotalCounter → Telemetry → UInt64
  | cpuIterations => Telemetry.cpuIterations
  | allocAttempts => Telemetry.allocAttempts
  | allocSuccesses => Telemetry.allocSuccesses
  | allocFailures => Telemetry.allocFailures

/-- How much a recording adds to a counter. -/
def amount : TotalCounter → Recording → Nat
  | cpuIterations, .iterations count => count.toNat
  | allocAttempts, .attempt _ => 1
  | allocSuccesses, .success => 1
  | allocFailures, .failure => 1
  | _, _ => 0

/-- How much some recordings add to a counter. -/
def sum (c : TotalCounter) (rs : List Recording) : Nat :=
  (rs.map c.amount).sum

variable {c : TotalCounter} {l : GuardLedger} {ops : List GuardOperation} {rs rs' : List Recording}

@[simp] theorem sum_nil : c.sum [] = 0 := rfl

theorem sum_cons (r : Recording) : c.sum (r :: rs) = c.amount r + c.sum rs := by
  rw [sum, List.map_cons, List.sum_cons, sum]

theorem sum_append : c.sum (rs ++ rs') = c.sum rs + c.sum rs' := by
  rw [sum, List.map_append, List.sum_append, sum, sum]

theorem sum_mono (h : rs <+: rs') : c.sum rs ≤ c.sum rs' := by
  obtain ⟨rest, rfl⟩ := h
  rw [sum_append]
  exact Nat.le_add_right _ _

@[simp] theorem read_enter (t : Telemetry) (kind : WorkerKind) :
    c.read (t.enter kind) = c.read t := by
  cases c <;> cases kind <;> rfl

@[simp] theorem read_leave (t : Telemetry) (kind : WorkerKind) :
    c.read (t.leave kind) = c.read t := by
  cases c <;> cases kind <;> rfl

theorem read_record (t : Telemetry) (r : Recording) :
    c.read (t.record r) = c.read t + UInt64.ofNat (c.amount r) := by
  cases c with
  | cpuIterations =>
    cases r with
    | iterations count => exact congrArg (t.cpuIterations + ·) UInt64.ofNat_toNat.symm
    | _ => exact (UInt64.add_zero _).symm
  | allocAttempts =>
    cases r with
    | attempt bytes => rfl
    | _ => exact (UInt64.add_zero _).symm
  | allocSuccesses =>
    cases r with
    | success => rfl
    | _ => exact (UInt64.add_zero _).symm
  | allocFailures =>
    cases r with
    | failure => rfl
    | _ => exact (UInt64.add_zero _).symm

theorem foldl_amount (x : UInt64) :
    rs.foldl (fun x r => x + UInt64.ofNat (c.amount r)) x = x + UInt64.ofNat (c.sum rs) := by
  induction rs generalizing x with
  | nil => exact (UInt64.add_zero x).symm
  | cons r rs ih => rw [List.foldl_cons, ih, sum_cons, UInt64.ofNat_add, UInt64.add_assoc]

/-- A counter grows by the sum of what a course records for it. -/
theorem read_run :
    c.read (l.run ops).telemetry =
      c.read l.telemetry + UInt64.ofNat (c.sum (l.recordings ops)) := by
  rw [read_run_of_record (f := fun x r => x + UInt64.ofNat (c.amount r)) read_enter read_leave
    read_record, foldl_amount]

/-- What a counter holds after some operations from the start, as long as it fits. -/
theorem toNat_read_run (hfit : c.sum (recordings {} ops) < 2 ^ 64) :
    (c.read (GuardLedger.run {} ops).telemetry).toNat = c.sum (recordings {} ops) := by
  have hzero : c.read ({} : GuardLedger).telemetry = 0 := by cases c <;> rfl
  rw [read_run, hzero, UInt64.zero_add]
  exact UInt64.toNat_ofNat_of_lt' hfit

/-- At a later moment of a course a counter holds at least as much. -/
theorem read_mono (hfit : c.sum (recordings {} ops) < 2 ^ 64) {n n' : Nat} (h : n ≤ n') :
    c.read (GuardLedger.run {} (ops.take n)).telemetry ≤
      c.read (GuardLedger.run {} (ops.take n')).telemetry := by
  have hfits : ∀ m, c.sum (recordings {} (ops.take m)) < 2 ^ 64 := fun m =>
    Nat.lt_of_le_of_lt (sum_mono (prefix_recordings _ _ m)) hfit
  rw [UInt64.le_iff_toNat_le, toNat_read_run (hfits n), toNat_read_run (hfits n')]
  exact sum_mono (prefix_recordings_take h)

end TotalCounter

/-! ## Results and attempts -/

namespace Recording

variable {rs rs' : List Recording} {own : Nat → Nat}

def isAttempt : Recording → Bool
  | .attempt _ => true
  | _ => false

/-- Whether a recording tells how an attempt has ended. -/
def isResult : Recording → Bool
  | .success | .failure => true
  | _ => false

/-- Whether every result has an attempt of its own before it, which stands at the place that
`own` gives. -/
structure FollowAttempts (own : Nat → Nat) (rs : List Recording) : Prop where
  nodup : ((rs.findIdxs isResult).map own).Nodup
  lt : ∀ i ∈ rs.findIdxs isResult, own i < i
  mem : ∀ i ∈ rs.findIdxs isResult, own i ∈ rs.findIdxs isAttempt

instance (own : Nat → Nat) (rs : List Recording) : Decidable (FollowAttempts own rs) :=
  decidable_of_iff
    (((rs.findIdxs isResult).map own).Nodup ∧ (∀ i ∈ rs.findIdxs isResult, own i < i) ∧
      ∀ i ∈ rs.findIdxs isResult, own i ∈ rs.findIdxs isAttempt)
    ⟨fun ⟨hnodup, hlt, hmem⟩ => ⟨hnodup, hlt, hmem⟩, fun ⟨hnodup, hlt, hmem⟩ => ⟨hnodup, hlt, hmem⟩⟩

/-- What has its attempts in a whole list has them in the first part of it. -/
theorem FollowAttempts.mono (h : FollowAttempts own rs') (hpart : rs <+: rs') :
    FollowAttempts own rs := by
  obtain ⟨rest, rfl⟩ := hpart
  have hmem : ∀ i ∈ rs.findIdxs isResult, i ∈ (rs ++ rest).findIdxs isResult := fun i hi => by
    rw [List.findIdxs_append]
    exact List.mem_append_left _ hi
  constructor
  case nodup =>
    have hnodup := h.nodup
    rw [List.findIdxs_append, List.map_append] at hnodup
    exact (List.nodup_append.1 hnodup).1
  case lt => exact fun i hi => h.lt i (hmem i hi)
  case mem =>
    intro i hi
    -- the attempt stands before the result, and so in the same part
    have hlt := (h.lt i (hmem i hi)).trans (List.lt_add_of_mem_findIdxs i hi)
    have hown := h.mem i (hmem i hi)
    rw [List.findIdxs_append, List.mem_append] at hown
    exact hown.resolve_right fun hrest =>
      Nat.not_le.2 hlt ((Nat.add_comm _ _).trans_le (List.ge_of_mem_findIdxs _ hrest))

/-- Results with attempts of their own are at most as many as attempts. -/
theorem FollowAttempts.countP_le (h : FollowAttempts own rs) :
    rs.countP isResult ≤ rs.countP isAttempt := by
  have hsubset : (rs.findIdxs isResult).map own ⊆ rs.findIdxs isAttempt := by
    simpa only [List.map_subset_iff, List.subset_def, List.forall_mem_map] using h.mem
  calc rs.countP isResult
    _ = ((rs.findIdxs isResult).map own).length := by
      rw [List.length_map, List.length_findIdxs]
    _ ≤ (rs.findIdxs isAttempt).length := (List.subperm_of_subset h.nodup hsubset).length_le
    _ = rs.countP isAttempt := List.length_findIdxs

theorem countP_isAttempt : rs.countP isAttempt = TotalCounter.allocAttempts.sum rs := by
  induction rs with
  | nil => rfl
  | cons r rs ih =>
    rw [List.countP_cons, ih, TotalCounter.sum_cons, Nat.add_comm]
    cases r <;> rfl

theorem countP_isResult : rs.countP isResult =
    TotalCounter.allocSuccesses.sum rs + TotalCounter.allocFailures.sum rs := by
  induction rs with
  | nil => rfl
  | cons r rs ih =>
    have hone : (if isResult r then 1 else 0) =
        TotalCounter.allocSuccesses.amount r + TotalCounter.allocFailures.amount r := by
      cases r <;> rfl
    rw [List.countP_cons, ih, TotalCounter.sum_cons, TotalCounter.sum_cons, hone]
    omega

end Recording

/-- After a course whose results have attempts of their own, no more results are counted
than attempts. -/
theorem Recording.FollowAttempts.results_le {own : Nat → Nat} {ops : List GuardOperation}
    (h : FollowAttempts own (GuardLedger.recordings {} ops))
    (hfit : TotalCounter.allocAttempts.sum (GuardLedger.recordings {} ops) < 2 ^ 64) :
    (GuardLedger.run {} ops).telemetry.allocSuccesses.toNat +
        (GuardLedger.run {} ops).telemetry.allocFailures.toNat ≤
      (GuardLedger.run {} ops).telemetry.allocAttempts.toNat := by
  have hle := h.countP_le
  rw [countP_isAttempt, countP_isResult] at hle
  have hsuccesses : TotalCounter.allocSuccesses.sum (GuardLedger.recordings {} ops) < 2 ^ 64 := by
    omega
  have hfailures : TotalCounter.allocFailures.sum (GuardLedger.recordings {} ops) < 2 ^ 64 := by
    omega
  have hsuccesses := TotalCounter.toNat_read_run hsuccesses
  have hfailures := TotalCounter.toNat_read_run hfailures
  have hattempts := TotalCounter.toNat_read_run hfit
  simp only [TotalCounter.read] at hsuccesses hfailures hattempts
  omega

end ResourceFaults
