import ResourceFaults.Decimal.Places
import ResourceFaults.Telemetry
import ResourceFaults.Time.Moment
import ResourceFaults.Usage

/-!
# Snapshots

A snapshot is what a status line shows: the telemetry and the resource usage at
one moment.
-/

namespace ResourceFaults

/-- The telemetry and the usage at one moment. -/
structure Snapshot where
  iteration : UInt64 := 0
  timestamp : Time.Moment := Time.Moment.epoch
  telemetry : Telemetry := {}
  usage : Option ProcessUsage := none
  deriving Inhabited

/-- A number of bytes in MB, with one decimal place. -/
def megabytes (bytes : UInt64) : String :=
  Decimal.onePlace (bytes.toFloat / 1048576)

namespace Snapshot

/-- What a status line says about usage. -/
def usageLine (u : ProcessUsage) : String :=
  s!" | cpu time: {Decimal.onePlace u.cpuSecs}s | max rss: {u.maxRssKb / 1024} MB"

/-- The status line. -/
def statusLine (s : Snapshot) : String :=
  let t := s.telemetry
  s!"[STATUS] cpu workers: {t.cpuActive} | mem workers: {t.memActive} | "
    ++ s!"allocs: {t.allocSuccesses}/{t.allocAttempts} | retained: {megabytes t.retainedBytes} MB"
    ++ (s.usage.map usageLine).getD ""

/-- The status line, and a second line once an allocation has failed. -/
def statusLines (s : Snapshot) : List String :=
  let failures := s.telemetry.allocFailures
  s.statusLine ::
    if failures == 0 then []
    else [s!"  memory fault degraded after {failures} failed allocation(s)"]

end Snapshot

end ResourceFaults
