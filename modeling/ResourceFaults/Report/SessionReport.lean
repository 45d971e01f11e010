import ResourceFaults.Report.Statistics
import ResourceFaults.Time.Rfc3339

/-!
# Session reports

What a session leaves behind: the commands that were delivered, the snapshots
that were taken, and their statistics.

The times in a report and the name of a report are in local time, which is taken to
be universal time (see `Time.Moment`).
-/

namespace ResourceFaults

/-- The report of a session. -/
structure SessionReport where
  reportId : String := ""
  generationTime : Time.Moment := Time.Moment.epoch
  commands : List String := []
  snapshots : List Snapshot := []
  statistics : Statistics := {}
  deriving Inhabited

namespace SessionReport

/-- The name of a report made at a moment: the date and the time in digits. -/
def identifier (m : Time.Moment) : String :=
  let two (n : Nat) := Time.padded 2 n
  "fault_session_" ++ String.ofList
    (Time.yearDigits m.date.year ++ two m.date.month ++ two m.date.day ++ '_' ::
      two (m.second / 3600) ++ two (m.second / 60 % 60) ++ two (m.second % 60))

/-- The report of a session that ends now. -/
def new (now : Time.Moment) (commands : List String) (snapshots : List Snapshot) :
    SessionReport where
  reportId := identifier now
  generationTime := now
  commands
  snapshots
  statistics := Statistics.ofSnapshots snapshots

/-- The summary for a reader.  It starts with an empty line. -/
def summary (r : SessionReport) : List String :=
  let s := r.statistics
  [ "",
    "=== FAULT SESSION REPORT ===",
    "Commands: " ++ " ; ".intercalate r.commands,
    s!"Duration: {s.durationSeconds.toInt} seconds",
    s!"Total Snapshots: {s.totalSnapshots}",
    s!"-- CPU:    peak workers {s.peakCpuWorkers} | busy-work iterations {s.cpuIterations}",
    s!"-- MEMORY: peak workers {s.peakMemWorkers} | allocations " ++
      s!"{s.allocSuccesses}/{s.allocAttempts} | failures {s.allocFailures} | " ++
      s!"peak retained {megabytes s.peakRetainedBytes} MB",
    s!"-- PROCESS: cpu time {Decimal.onePlace s.cpuSeconds}s | peak rss {s.peakRssKb / 1024} MB" ]

end SessionReport

end ResourceFaults
