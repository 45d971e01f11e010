import ResourceFaults.Error
import ResourceFaults.Json.Record
import ResourceFaults.Report.SessionReport

/-!
# Records as JSON

The fields of every record that is written or read, in their order.  A saved
report has one entry a line.
-/

namespace ResourceFaults

open Json (Codec Field Record)

/-- The options of a fault as a record. -/
def Options.format : Record Options where
  name := "Options"
  blank := {}
  fields :=
    [ .of "duration_secs" .word (·.durationSecs) fun v o => { o with durationSecs := v },
      .of "threads" .size (·.threads) fun v o => { o with threads := v },
      .of "block_mib" .halfWord (·.blockMib) fun v o => { o with blockMib := v },
      .of "sleep_ms" .word (·.sleepMs) fun v o => { o with sleepMs := v },
      .of "keep" .boolean (·.keep) fun v o => { o with keep := v } ]

/-- Telemetry as a record. -/
def Telemetry.format : Record Telemetry where
  name := "TelemetrySnapshot"
  blank := {}
  fields :=
    [ .of "cpu_active" .word (·.cpuActive) fun v t => { t with cpuActive := v },
      .of "cpu_launched" .word (·.cpuLaunched) fun v t => { t with cpuLaunched := v },
      .of "cpu_iterations" .word (·.cpuIterations) fun v t => { t with cpuIterations := v },
      .of "cpu_progressed" .word (·.cpuProgressed) fun v t => { t with cpuProgressed := v },
      .of "mem_active" .word (·.memActive) fun v t => { t with memActive := v },
      .of "mem_launched" .word (·.memLaunched) fun v t => { t with memLaunched := v },
      .of "alloc_attempts" .word (·.allocAttempts) fun v t => { t with allocAttempts := v },
      .of "alloc_successes" .word (·.allocSuccesses) fun v t => { t with allocSuccesses := v },
      .of "alloc_failures" .word (·.allocFailures) fun v t => { t with allocFailures := v },
      .of "last_block_bytes" .word (·.lastBlockBytes) fun v t => { t with lastBlockBytes := v },
      .of "retained_blocks" .word (·.retainedBlocks) fun v t => { t with retainedBlocks := v },
      .of "retained_bytes" .word (·.retainedBytes) fun v t => { t with retainedBytes := v } ]

/-- Resource usage as a record. -/
def ProcessUsage.format : Record ProcessUsage where
  name := "ProcessUsage"
  blank := {}
  fields :=
    [ .of "user_cpu_secs" .real (·.userCpuSecs) fun v u => { u with userCpuSecs := v },
      .of "system_cpu_secs" .real (·.systemCpuSecs) fun v u => { u with systemCpuSecs := v },
      .of "max_rss_kb" .word (·.maxRssKb) fun v u => { u with maxRssKb := v },
      .ofOptional "resident_kb" .word (·.residentKb) fun v u => { u with residentKb := v } ]

/-- A snapshot as a record. -/
def Snapshot.format : Record Snapshot where
  name := "Snapshot"
  blank := {}
  fields :=
    [ .of "iteration" .size (·.iteration) fun v s => { s with iteration := v },
      .of "timestamp" .moment (·.timestamp) fun v s => { s with timestamp := v },
      .of "telemetry" Telemetry.format.codec (·.telemetry) fun v s => { s with telemetry := v },
      .ofOptional "usage" ProcessUsage.format.codec (·.usage) fun v s => { s with usage := v } ]

/-- Statistics as a record. -/
def Statistics.format : Record Statistics where
  name := "Statistics"
  blank := {}
  fields :=
    [ .of "total_snapshots" .size (·.totalSnapshots) fun v s => { s with totalSnapshots := v },
      .of "duration_seconds" .signedWord (·.durationSeconds) fun v s =>
        { s with durationSeconds := v },
      .of "peak_cpu_workers" .word (·.peakCpuWorkers) fun v s => { s with peakCpuWorkers := v },
      .of "peak_mem_workers" .word (·.peakMemWorkers) fun v s => { s with peakMemWorkers := v },
      .of "peak_retained_bytes" .word (·.peakRetainedBytes) fun v s =>
        { s with peakRetainedBytes := v },
      .of "cpu_iterations" .word (·.cpuIterations) fun v s => { s with cpuIterations := v },
      .of "alloc_attempts" .word (·.allocAttempts) fun v s => { s with allocAttempts := v },
      .of "alloc_successes" .word (·.allocSuccesses) fun v s => { s with allocSuccesses := v },
      .of "alloc_failures" .word (·.allocFailures) fun v s => { s with allocFailures := v },
      .of "cpu_seconds" .real (·.cpuSeconds) fun v s => { s with cpuSeconds := v },
      .of "peak_rss_kb" .word (·.peakRssKb) fun v s => { s with peakRssKb := v } ]

/-- A session report as a record. -/
def SessionReport.format : Record SessionReport where
  name := "SessionReport"
  blank := {}
  fields :=
    [ .of "report_id" .string (·.reportId) fun v r => { r with reportId := v },
      .of "generation_time" .moment (·.generationTime) fun v r => { r with generationTime := v },
      .of "commands" (.list .string) (·.commands) fun v r => { r with commands := v },
      .of "snapshots" (.list Snapshot.format.codec) (·.snapshots) fun v r =>
        { r with snapshots := v },
      .of "statistics" Statistics.format.codec (·.statistics) fun v r =>
        { r with statistics := v } ]

namespace SessionReport

/-- The text of a saved report. -/
def save (r : SessionReport) : String :=
  format.codec.pretty r

/-- Reads the text of a saved report. -/
def load (text : String) : Except ReportError SessionReport :=
  (format.codec.decode text).mapError .json

/-- Reads the bytes of a file as a saved report. -/
def loadBytes (bytes : List UInt8) : Except ReportError SessionReport :=
  match Text.RawText.text? (Text.RawText.ofBytes bytes) with
  | some text => load text
  | none => .error (.file .notText)

end SessionReport

end ResourceFaults
