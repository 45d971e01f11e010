import Mathlib
import ResourceFaults.Proofs.Telemetry.Recordings
import ResourceFaults.Proofs.Time.Elapsed
import ResourceFaults.Report.Statistics

/-!
# Statistics of combined lists

The figures of a report follow three rules.  A peak is the greatest value that a gauge has
in some snapshot, a total is the value of a counter in the last one, and the duration leads
from the first to the last.  `Statistics.Combines` says what becomes of each when two lists
of snapshots are put together.

The second rule is meant to give the greatest value as well.  That depends on where the
snapshots come from: `Statistics.Accounts` says it of snapshots that are taken along a
course of operations on the counters (`TakenAlong`).
-/

namespace ResourceFaults

/-! ## Peaks -/

instance lawfulOrderMax_word : Std.LawfulOrderMax UInt64 where
  max_le_iff x y z := by
    rw [UInt64.max_def]
    split
    case isTrue hle => exact ⟨fun h => ⟨UInt64.le_trans hle h, h⟩, And.right⟩
    case isFalse hle =>
      have hle := (UInt64.le_total x y).resolve_left hle
      exact ⟨fun h => ⟨h, UInt64.le_trans hle h⟩, And.left⟩
  max_eq_or x y := by
    rw [UInt64.max_def]
    split
    case isTrue => exact .inr rfl
    case isFalse => exact .inl rfl

/-- Whether a word is the greatest value that some snapshots have, or zero if none of them
has one. -/
structure IsPeak (value? : Snapshot → Option UInt64) (snapshots : List Snapshot) (p : UInt64) :
    Prop where
  le : ∀ s ∈ snapshots, ∀ v, value? s = some v → v ≤ p
  attained : (∃ s ∈ snapshots, value? s = some p) ∨ p = 0 ∧ ∀ s ∈ snapshots, value? s = none

namespace IsPeak

variable {value? : Snapshot → Option UInt64} {xs ys : List Snapshot} {p q r : UInt64}

theorem le_of_forall_le (h : IsPeak value? xs p) (hq : ∀ s ∈ xs, ∀ v, value? s = some v → v ≤ q) :
    p ≤ q := by
  rcases h.attained with ⟨s, hs, hp⟩ | ⟨rfl, -⟩
  · exact hq s hs p hp
  · exact UInt64.zero_le

/-- The peak of two lists together is the greater of their peaks. -/
theorem eq_max (hp : IsPeak value? xs p) (hq : IsPeak value? ys q)
    (hr : IsPeak value? (xs ++ ys) r) : r = max p q := by
  apply UInt64.le_antisymm
  · refine hr.le_of_forall_le fun s hs v hv => ?_
    rcases List.mem_append.1 hs with hs | hs
    · exact UInt64.le_trans (hp.le s hs v hv) Std.left_le_max
    · exact UInt64.le_trans (hq.le s hs v hv) Std.right_le_max
  · refine Std.max_le_iff.2 ⟨hp.le_of_forall_le fun s hs => ?_, hq.le_of_forall_le fun s hs => ?_⟩
    · exact hr.le s (List.mem_append_left _ hs)
    · exact hr.le s (List.mem_append_right _ hs)

end IsPeak

theorem peak_eq (values : List UInt64) : peak values = values.max?.getD 0 := by
  have hle : (0 : UInt64) ≤ values.max?.getD 0 := UInt64.zero_le
  rw [peak, List.foldl_max, UInt64.max_def, if_pos hle]

theorem isPeak_peak (value? : Snapshot → Option UInt64) (snapshots : List Snapshot) :
    IsPeak value? snapshots (peak (snapshots.filterMap value?)) := by
  rw [peak_eq]
  cases hmax : (snapshots.filterMap value?).max? with
  | none =>
    have hnone := List.filterMap_eq_nil_iff.1 (List.max?_eq_none_iff.1 hmax)
    constructor
    case le =>
      intro s hs v hv
      rw [hnone s hs] at hv
      cases hv
    case attained => exact .inr ⟨rfl, hnone⟩
  | some p =>
    obtain ⟨hmem, hle⟩ := List.max?_eq_some_iff.1 hmax
    constructor
    case le => exact fun s hs v hv => hle v (List.mem_filterMap.2 ⟨s, hs, hv⟩)
    case attained => exact .inl (List.mem_filterMap.1 hmem)

/-- The gauges of which a report shows the peaks. -/
inductive PeakGauge where
  | cpuWorkers
  | memWorkers
  | retainedBytes
  | rssKb
  deriving DecidableEq, Repr

namespace PeakGauge

/-- What a snapshot says of a gauge.  The memory of the process is known only if the
snapshot tells the usage. -/
def value? : PeakGauge → Snapshot → Option UInt64
  | cpuWorkers, s => some s.telemetry.cpuActive
  | memWorkers, s => some s.telemetry.memActive
  | retainedBytes, s => some s.telemetry.retainedBytes
  | rssKb, s => s.usage.map ProcessUsage.maxRssKb

/-- The peak of a gauge in the statistics. -/
def shown : PeakGauge → Statistics → UInt64
  | cpuWorkers => Statistics.peakCpuWorkers
  | memWorkers => Statistics.peakMemWorkers
  | retainedBytes => Statistics.peakRetainedBytes
  | rssKb => Statistics.peakRssKb

theorem shown_ofSnapshots (g : PeakGauge) (snapshots : List Snapshot) :
    g.shown (Statistics.ofSnapshots snapshots) = peak (snapshots.filterMap g.value?) := by
  have hmap : ∀ f : Telemetry → UInt64, (snapshots.map Snapshot.telemetry).map f =
      snapshots.filterMap fun s => some (f s.telemetry) := fun f => by
    rw [List.map_map]
    exact (congrFun List.filterMap_eq_map snapshots).symm
  cases g with
  | cpuWorkers | memWorkers | retainedBytes => exact congrArg peak (hmap _)
  | rssKb => exact congrArg peak List.map_filterMap

theorem isPeak_shown (g : PeakGauge) (snapshots : List Snapshot) :
    IsPeak g.value? snapshots (g.shown (Statistics.ofSnapshots snapshots)) := by
  rw [shown_ofSnapshots]
  exact isPeak_peak g.value? snapshots

end PeakGauge

/-! ## Totals -/

/-- The total of a counter in the statistics. -/
def TotalCounter.shown : TotalCounter → Statistics → UInt64
  | cpuIterations => Statistics.cpuIterations
  | allocAttempts => Statistics.allocAttempts
  | allocSuccesses => Statistics.allocSuccesses
  | allocFailures => Statistics.allocFailures

theorem TotalCounter.shown_nil (c : TotalCounter) : c.shown (Statistics.ofSnapshots []) = 0 := by
  cases c <;> rfl

/-- A total is what the last snapshot says. -/
theorem TotalCounter.shown_concat (c : TotalCounter) (snapshots : List Snapshot) (s : Snapshot) :
    c.shown (Statistics.ofSnapshots (snapshots ++ [s])) = c.read s.telemetry := by
  cases c <;>
    simp only [shown, read, Statistics.ofSnapshots, List.map_append, List.map_singleton,
      List.getLastD_concat]

/-! ## Lists put together -/

namespace Statistics

/-- What the statistics of two lists together are. -/
structure Combines (xs ys : List Snapshot) : Prop where
  totalSnapshots_eq : (ofSnapshots (xs ++ ys)).totalSnapshots =
    (ofSnapshots xs).totalSnapshots + (ofSnapshots ys).totalSnapshots
  totalSnapshots_eq_length :
    (ofSnapshots (xs ++ ys)).totalSnapshots = UInt64.ofNat (xs.length + ys.length)
  peak_eq_max : ∀ g : PeakGauge, g.shown (ofSnapshots (xs ++ ys)) =
    max (g.shown (ofSnapshots xs)) (g.shown (ofSnapshots ys))
  isPeak : ∀ g : PeakGauge, IsPeak g.value? (xs ++ ys) (g.shown (ofSnapshots (xs ++ ys)))
  total_of_ne_nil : ∀ c : TotalCounter, ys ≠ [] →
    c.shown (ofSnapshots (xs ++ ys)) = c.shown (ofSnapshots ys)
  total_of_eq_nil : ∀ c : TotalCounter, ys = [] →
    c.shown (ofSnapshots (xs ++ ys)) = c.shown (ofSnapshots xs)
  duration_of_eq_nil : xs ++ ys = [] → (ofSnapshots (xs ++ ys)).durationSeconds = 0
  /-- The seconds are cut toward zero. -/
  duration_eq : ∀ first last : Snapshot,
    (xs ++ ys).head? = some first → (xs ++ ys).getLast? = some last →
    (ofSnapshots (xs ++ ys)).durationSeconds = Int64.ofInt
      ((Time.Moment.nanosBetween first.timestamp last.timestamp).tdiv Time.nanosPerSecond)
  /-- Between moments of the calendar they fit into a word. -/
  toInt_duration_eq : ∀ first last : Snapshot,
    (xs ++ ys).head? = some first → (xs ++ ys).getLast? = some last →
    first.timestamp.IsInCalendar → last.timestamp.IsInCalendar →
    (ofSnapshots (xs ++ ys)).durationSeconds.toInt =
      (Time.Moment.nanosBetween first.timestamp last.timestamp).tdiv Time.nanosPerSecond

theorem combines (xs ys : List Snapshot) : Combines xs ys := by
  constructor
  case totalSnapshots_eq =>
    rw [ofSnapshots, List.length_append, UInt64.ofNat_add]
    rfl
  case totalSnapshots_eq_length =>
    rw [ofSnapshots, List.length_append]
  case peak_eq_max =>
    exact fun g => (g.isPeak_shown xs).eq_max (g.isPeak_shown ys) (g.isPeak_shown _)
  case isPeak => exact fun g => g.isPeak_shown _
  case total_of_ne_nil =>
    intro c hne
    obtain ⟨ys, s, rfl⟩ := (List.eq_nil_or_concat' ys).resolve_left hne
    rw [← List.append_assoc, c.shown_concat, c.shown_concat]
  case total_of_eq_nil =>
    rintro c rfl
    rw [List.append_nil]
  case duration_of_eq_nil =>
    intro hnil
    rw [hnil]
    rfl
  case duration_eq =>
    intro first last hhead hlast
    rw [ofSnapshots, elapsedSeconds, hhead, hlast, ← Time.Moment.secondsSince_eq_tdiv]
  case toInt_duration_eq =>
    intro first last hhead hlast hfirst hlast'
    rw [ofSnapshots, elapsedSeconds, hhead, hlast, ← Time.Moment.secondsSince_eq_tdiv]
    exact Time.Moment.toInt_secondsSince hfirst hlast'

end Statistics

/-! ## Snapshots along a course of operations -/

/-- Whether the counters in some snapshots are those of a course of operations at moments
that follow each other. -/
def TakenAlong (ops : List GuardOperation) (snapshots : List Snapshot) : Prop :=
  ∃ times : List Nat, times.Pairwise (· ≤ ·) ∧ snapshots.map Snapshot.telemetry =
    times.map fun n => (GuardLedger.run {} (ops.take n)).telemetry

/-- No snapshot is taken later than the last. -/
theorem TakenAlong.exists_last {ops : List GuardOperation} {snapshots : List Snapshot}
    {last : Snapshot} (h : TakenAlong ops (snapshots ++ [last])) :
    ∃ n, last.telemetry = (GuardLedger.run {} (ops.take n)).telemetry ∧
      ∀ s ∈ snapshots, ∃ m ≤ n, s.telemetry = (GuardLedger.run {} (ops.take m)).telemetry := by
  obtain ⟨times, hsorted, hmap⟩ := h
  rw [List.map_append, List.append_eq_map_iff] at hmap
  obtain ⟨before, final, rfl, hbefore, hfinal⟩ := hmap
  obtain ⟨n, rfl, hn⟩ := List.map_eq_singleton_iff.1 hfinal
  refine ⟨n, hn.symm, fun s hs => ?_⟩
  have hmem : s.telemetry ∈ snapshots.map Snapshot.telemetry := List.mem_map_of_mem hs
  rw [← hbefore] at hmem
  obtain ⟨m, hm, hs⟩ := List.mem_map.1 hmem
  exact ⟨m, (List.pairwise_append.1 hsorted).2.2 m hm n List.mem_cons_self, hs.symm⟩

namespace Statistics

open GuardLedger Recording

/-- What the totals say of the snapshots that are taken along a course of operations. -/
structure Accounts (ops : List GuardOperation) (snapshots : List Snapshot) : Prop where
  /-- A counter that stays within 64 bits has its total for a peak. -/
  total_isPeak : ∀ c : TotalCounter, c.sum (recordings {} ops) < 2 ^ 64 →
    IsPeak (fun s => some (c.read s.telemetry)) snapshots (c.shown (ofSnapshots snapshots))
  results_le : TotalCounter.allocAttempts.sum (recordings {} ops) < 2 ^ 64 →
    ∀ own : Nat → Nat, FollowAttempts own (recordings {} ops) →
    (ofSnapshots snapshots).allocSuccesses.toNat + (ofSnapshots snapshots).allocFailures.toNat ≤
      (ofSnapshots snapshots).allocAttempts.toNat

theorem accounts_nil (ops : List GuardOperation) : Accounts ops [] where
  total_isPeak c _ := by
    rw [c.shown_nil]
    exact ⟨nofun, .inr ⟨rfl, nofun⟩⟩
  results_le _ _ _ := Nat.le_refl 0

theorem accounts_concat {ops : List GuardOperation} {snapshots : List Snapshot} {last : Snapshot}
    (h : TakenAlong ops (snapshots ++ [last])) : Accounts ops (snapshots ++ [last]) := by
  obtain ⟨n, hn, hearlier⟩ := h.exists_last
  constructor
  case total_isPeak =>
    intro c hfit
    rw [c.shown_concat]
    constructor
    case le =>
      intro s hs v hv
      obtain rfl := Option.some.inj hv
      rcases List.mem_append.1 hs with hs | hs
      · obtain ⟨m, hm, hs⟩ := hearlier s hs
        rw [hs, hn]
        exact TotalCounter.read_mono hfit hm
      · rw [List.mem_singleton.1 hs]
        exact UInt64.le_refl _
    case attained => exact .inl ⟨last, by simp, rfl⟩
  case results_le =>
    intro hfit own hown
    have hpart := prefix_recordings {} ops n
    have hle := (hown.mono hpart).results_le
      (Nat.lt_of_le_of_lt (TotalCounter.sum_mono hpart) hfit)
    have hsuccesses := TotalCounter.allocSuccesses.shown_concat snapshots last
    have hfailures := TotalCounter.allocFailures.shown_concat snapshots last
    have hattempts := TotalCounter.allocAttempts.shown_concat snapshots last
    simp only [TotalCounter.shown, TotalCounter.read, hn] at hsuccesses hfailures hattempts
    rw [hsuccesses, hfailures, hattempts]
    exact hle

theorem accounts {ops : List GuardOperation} {snapshots : List Snapshot}
    (h : TakenAlong ops snapshots) : Accounts ops snapshots := by
  rcases List.eq_nil_or_concat' snapshots with rfl | ⟨snapshots, last, rfl⟩
  · exact accounts_nil ops
  · exact accounts_concat h

/-- The statistics of two lists of snapshots combine into those of both together.  Where
snapshots are taken along a course of operations from the start, the totals are the greatest
values of their counters, and no more results are shown than attempts if each result has
followed its own. -/
theorem combines_and_accounts (xs ys : List Snapshot) {ops : List GuardOperation}
    {snapshots : List Snapshot} (htaken : TakenAlong ops snapshots) :
    Combines xs ys ∧ Accounts ops snapshots :=
  ⟨combines xs ys, accounts htaken⟩

/-- A worker gets one block and is refused another.  Meanwhile the clock is set back, from
`9` seconds after midnight to `3.5` in the end. -/
theorem combines_and_accounts_of_refused_block :
    let ops : List GuardOperation :=
      [.enter .memory, .recordVia 0 (.attempt 4096), .recordVia 0 .success,
        .recordVia 0 (.attempt 8192), .recordVia 0 .failure, .drop 0]
    let shot (n seconds nano : Nat) : Snapshot :=
      { timestamp := { Time.Moment.epoch with second := seconds, nano := nano }
        telemetry := (GuardLedger.run {} (ops.take n)).telemetry }
    let xs := [shot 1 9 0, shot 3 7 500000000]
    let ys := [shot 6 3 0, shot 6 3 500000000]
    TakenAlong ops (xs ++ ys) ∧
      (ofSnapshots (xs ++ ys)).peakMemWorkers =
        max (ofSnapshots xs).peakMemWorkers (ofSnapshots ys).peakMemWorkers ∧
      (ofSnapshots xs).peakMemWorkers = 1 ∧ (ofSnapshots ys).peakMemWorkers = 0 ∧
      (ofSnapshots (xs ++ ys)).durationSeconds.toInt = -5 ∧
      IsPeak (fun s => some s.telemetry.allocFailures) (xs ++ ys)
        (ofSnapshots (xs ++ ys)).allocFailures ∧
      (ofSnapshots (xs ++ ys)).allocSuccesses.toNat + (ofSnapshots (xs ++ ys)).allocFailures.toNat ≤
        (ofSnapshots (xs ++ ys)).allocAttempts.toNat := by
  intro ops shot xs ys
  have htaken : TakenAlong ops (xs ++ ys) := ⟨[1, 3, 6, 6], by decide, rfl⟩
  obtain ⟨hcombines, haccounts⟩ := combines_and_accounts xs ys htaken
  have hduration := hcombines.toInt_duration_eq _ _ rfl rfl (by decide) (by decide)
  exact ⟨htaken, hcombines.peak_eq_max .memWorkers, by decide, by decide,
    hduration.trans (by decide), haccounts.total_isPeak .allocFailures (by decide),
    haccounts.results_le (by decide) (fun i => i - 1) (by decide)⟩

end Statistics

end ResourceFaults
