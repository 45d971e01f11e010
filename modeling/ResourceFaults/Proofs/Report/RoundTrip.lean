import Mathlib
import ResourceFaults.Proofs.Json.Records
import ResourceFaults.Proofs.Text.Utf8
import ResourceFaults.Report.Format

/-!
# A saved report read back

`SessionReport.load_save`: the bytes of a saved report are read as the report itself,
with its strings, moments, counters and optional parts as they were.  Only the figures
in floating point may differ: each becomes the number that its own text is read as, and
all that is assumed of them is that there is one.  The text on one line is read as the
same report.
-/

namespace ResourceFaults

open Json (Codec Field Record)
open Json.Codec (reads_wordNamed reads_signedWord reads_string reads_moment reads_real reads_none)

/-! ## Figures in floating point -/

/-- A usage with its figures in floating point changed. -/
def ProcessUsage.mapReals (f : Float → Float) (u : ProcessUsage) : ProcessUsage :=
  { u with userCpuSecs := f u.userCpuSecs, systemCpuSecs := f u.systemCpuSecs }

/-- A snapshot with its figures in floating point changed. -/
def Snapshot.mapReals (f : Float → Float) (s : Snapshot) : Snapshot :=
  { s with usage := s.usage.map (·.mapReals f) }

/-- Statistics with their figure in floating point changed. -/
def Statistics.mapReals (f : Float → Float) (s : Statistics) : Statistics :=
  { s with cpuSeconds := f s.cpuSeconds }

/-- A report with its figures in floating point changed. -/
def SessionReport.mapReals (f : Float → Float) (r : SessionReport) : SessionReport :=
  { r with
    snapshots := r.snapshots.map (·.mapReals f)
    statistics := r.statistics.mapReals f }

/-- The figures of a usage in floating point. -/
def ProcessUsage.reals (u : ProcessUsage) : List Float :=
  [u.userCpuSecs, u.systemCpuSecs]

/-- The figures of a report in floating point. -/
def SessionReport.reals (r : SessionReport) : List Float :=
  r.statistics.cpuSeconds :: (r.snapshots.filterMap (·.usage)).flatMap (·.reals)

/-- The moments of a report. -/
def SessionReport.moments (r : SessionReport) : List Time.Moment :=
  r.generationTime :: r.snapshots.map (·.timestamp)

/-- The number that the text of a number is read as; the number itself if that text is
none. -/
def reread (x : Float) : Float :=
  match Codec.real.decode (Codec.real.compact x) with
  | .ok y => y
  | .error _ => x

/-- Whether the text of a number is read as some number. -/
def IsReadable (x : Float) : Prop :=
  ∃ y, Codec.real.decode (Codec.real.compact x) = .ok y

instance : DecidablePred IsReadable := fun x =>
  decidable_of_iff ((Codec.real.decode (Codec.real.compact x)).toOption.isSome = true) <| by
    unfold IsReadable
    cases Codec.real.decode (Codec.real.compact x) <;> simp [Except.toOption]

theorem reads_reread {x : Float} (h : IsReadable x) : Codec.real.Reads x (reread x) := by
  obtain ⟨y, hy⟩ := h
  have hreread : reread x = y := by rw [reread, hy]
  rw [hreread]
  exact reads_real hy

/-! ## Records -/

theorem Telemetry.reads (t : Telemetry) : format.codec.Reads t t := by
  have hword := reads_wordNamed "u64"
  exact Record.reads (r := format) (a := t) (by decide)
    (.cons ((hword t.cpuActive).field _ _) <|
    .cons ((hword t.cpuLaunched).field _ _) <|
    .cons ((hword t.cpuIterations).field _ _) <|
    .cons ((hword t.cpuProgressed).field _ _) <|
    .cons ((hword t.memActive).field _ _) <|
    .cons ((hword t.memLaunched).field _ _) <|
    .cons ((hword t.allocAttempts).field _ _) <|
    .cons ((hword t.allocSuccesses).field _ _) <|
    .cons ((hword t.allocFailures).field _ _) <|
    .cons ((hword t.lastBlockBytes).field _ _) <|
    .cons ((hword t.retainedBlocks).field _ _) <|
    .cons ((hword t.retainedBytes).field _ _) .nil)

theorem reads_optionalWord (n : Option UInt64) : Codec.word.optional.Reads n n := by
  cases n with
  | none => exact reads_none _
  | some n => exact (reads_wordNamed "u64" n).some rfl

theorem ProcessUsage.reads {u : ProcessUsage} (h : ∀ x ∈ u.reals, IsReadable x) :
    format.codec.Reads u (u.mapReals reread) :=
  Record.reads (r := format) (a := u) (by decide)
    (.cons ((reads_reread (h u.userCpuSecs (by simp [reals]))).field _ _) <|
    .cons ((reads_reread (h u.systemCpuSecs (by simp [reals]))).field _ _) <|
    .cons ((reads_wordNamed "u64" u.maxRssKb).field _ _) <|
    .cons ((reads_optionalWord u.residentKb).optionalField _ _) .nil)

theorem Snapshot.reads {s : Snapshot} (hmoment : s.timestamp.IsPlain)
    (hreals : ∀ u ∈ s.usage, ∀ x ∈ u.reals, IsReadable x) :
    format.codec.Reads s (s.mapReals reread) := by
  have husage : ProcessUsage.format.codec.optional.Reads s.usage
      (s.usage.map (·.mapReals reread)) := by
    cases husage : s.usage with
    | none => exact reads_none _
    | some u => exact (ProcessUsage.reads (hreals u husage)).some rfl
  exact Record.reads (r := format) (a := s) (by decide)
    (.cons ((reads_wordNamed "usize" s.iteration).field _ _) <|
    .cons ((reads_moment hmoment).field _ _) <|
    .cons (s.telemetry.reads.field _ _) <|
    .cons (husage.optionalField _ _) .nil)

theorem Statistics.reads {s : Statistics} (h : IsReadable s.cpuSeconds) :
    format.codec.Reads s (s.mapReals reread) := by
  have hword := reads_wordNamed "u64"
  exact Record.reads (r := format) (a := s) (by decide)
    (.cons ((reads_wordNamed "usize" s.totalSnapshots).field _ _) <|
    .cons ((reads_signedWord s.durationSeconds).field _ _) <|
    .cons ((hword s.peakCpuWorkers).field _ _) <|
    .cons ((hword s.peakMemWorkers).field _ _) <|
    .cons ((hword s.peakRetainedBytes).field _ _) <|
    .cons ((hword s.cpuIterations).field _ _) <|
    .cons ((hword s.allocAttempts).field _ _) <|
    .cons ((hword s.allocSuccesses).field _ _) <|
    .cons ((hword s.allocFailures).field _ _) <|
    .cons ((reads_reread h).field _ _) <|
    .cons ((hword s.peakRssKb).field _ _) .nil)

namespace SessionReport

/-- A report is read from every text that spells it. -/
theorem reads {r : SessionReport} (hmoments : ∀ m ∈ r.moments, m.IsPlain)
    (hreals : ∀ x ∈ r.reals, IsReadable x) : format.codec.Reads r (r.mapReals reread) := by
  obtain ⟨hgeneration, htimestamps⟩ := List.forall_mem_cons.1 hmoments
  obtain ⟨hstatistics, husages⟩ := List.forall_mem_cons.1 hreals
  have hcommands : List.Forall₂ Codec.string.Reads r.commands r.commands :=
    List.forall₂_same.2 fun s _ => reads_string s
  have hsnapshots : List.Forall₂ Snapshot.format.codec.Reads r.snapshots
      (r.snapshots.map (·.mapReals reread)) := by
    refine List.forall₂_map_right_iff.2 (List.forall₂_same.2 fun s hs => ?_)
    refine Snapshot.reads (htimestamps _ (List.mem_map_of_mem hs)) fun u hu x hx => ?_
    exact husages x (List.mem_flatMap.2 ⟨u, List.mem_filterMap.2 ⟨s, hs, hu⟩, hx⟩)
  exact Record.reads (r := format) (a := r) (by decide)
    (.cons ((reads_string r.reportId).field _ _) <|
    .cons ((reads_moment hgeneration).field _ _) <|
    .cons ((Codec.Reads.list hcommands).field _ _) <|
    .cons ((Codec.Reads.list hsnapshots).field _ _) <|
    .cons ((Statistics.reads hstatistics).field _ _) .nil)

/-- A saved report is read back from the bytes of its file, and so is the text on one
line: all but the figures in floating point is unchanged. -/
theorem load_save (r : SessionReport) (hmoments : ∀ m ∈ r.moments, m.IsPlain)
    (hreals : ∀ x ∈ r.reals, IsReadable x) :
    loadBytes r.save.toUTF8.data.toList = .ok (r.mapReals reread) ∧
      load (format.codec.compact r) = .ok (r.mapReals reread) := by
  have hreads := reads hmoments hreals
  constructor
  · rw [loadBytes, Text.RawText.ofBytes_utf8, Text.RawText.text?_ofString]
    show (format.codec.decode (format.codec.pretty r)).mapError _ = _
    rw [hreads.decode_pretty]
    rfl
  · rw [load, hreads.decode_compact]
    rfl

/-- A report with quotes, control characters and wide characters in its commands, with
and without usage, and with snapshots that go back in time. -/
def unusual : SessionReport where
  reportId := "fault_session_20240229_235959"
  generationTime := ⟨⟨2024, 2, 29⟩, 86399, 120000000⟩
  commands :=
    ["cpu -d 1", "\"quoted\" and \\ and /", "\t\n\r\x00\x08\x0c\x1f\x7f", "𝄞 ü \uffff", ""]
  snapshots :=
    [ { iteration := 18446744073709551615
        timestamp := ⟨⟨9999, 12, 31⟩, 0, 999999999⟩
        telemetry := { cpuActive := 1, retainedBytes := 18446744073709551615 }
        usage := some
          { userCpuSecs := 1.5, systemCpuSecs := 0.25, maxRssKb := 2048, residentKb := some 0 } },
      { usage := some { userCpuSecs := 3, maxRssKb := 1 } },
      { timestamp := ⟨⟨0, 2, 29⟩, 3661, 1000⟩ } ]
  statistics := { totalSnapshots := 3, durationSeconds := -315537811138, cpuSeconds := 3 }

theorem load_save_unusual :
    (∀ m ∈ unusual.moments, m.IsPlain) ∧ (∀ x ∈ unusual.reals, IsReadable x) ∧
      loadBytes unusual.save.toUTF8.data.toList = .ok (unusual.mapReals reread) ∧
      load (format.codec.compact unusual) = .ok (unusual.mapReals reread) := by
  have hmoments : ∀ m ∈ unusual.moments, m.IsPlain := by decide +kernel
  have hreals : ∀ x ∈ unusual.reals, IsReadable x := by decide +kernel
  exact ⟨hmoments, hreals, load_save unusual hmoments hreals⟩

end SessionReport

end ResourceFaults
