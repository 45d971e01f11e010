import ResourceFaults.Report.Snapshot

/-!
# Statistics of a session

What a list of snapshots comes to.  The gauges are shown by their peaks.  The
totals are those of the last snapshot, since the counters they come from only
grow.  The duration is the time from the first snapshot to the last.
-/

namespace ResourceFaults

/-- The statistics of a session. -/
structure Statistics where
  totalSnapshots : UInt64 := 0
  durationSeconds : Int64 := 0
  peakCpuWorkers : UInt64 := 0
  peakMemWorkers : UInt64 := 0
  peakRetainedBytes : UInt64 := 0
  cpuIterations : UInt64 := 0
  allocAttempts : UInt64 := 0
  allocSuccesses : UInt64 := 0
  allocFailures : UInt64 := 0
  cpuSeconds : Float := 0
  peakRssKb : UInt64 := 0
  deriving BEq, Inhabited

/-- The greatest of some words; zero if there are none. -/
def peak (values : List UInt64) : UInt64 :=
  values.foldl max 0

/-- The greater of two numbers.  Of equal ones, such as the two zeros, the second
is taken, and a number is taken before what is not one. -/
def greater (x y : Float) : Float :=
  if y < x || y.isNaN then x else y

/-- The greatest of some numbers and zero. -/
def greatest (values : List Float) : Float :=
  values.foldl greater 0

/-- The seconds from the first snapshot to the last. -/
def elapsedSeconds (snapshots : List Snapshot) : Int :=
  match snapshots.head?, snapshots.getLast? with
  | some first, some last => Time.Moment.secondsSince first.timestamp last.timestamp
  | _, _ => 0

/-- The statistics of a list of snapshots. -/
def Statistics.ofSnapshots (snapshots : List Snapshot) : Statistics :=
  let telemetries := snapshots.map (·.telemetry)
  let usages := snapshots.filterMap (·.usage)
  let last := telemetries.getLastD {}
  { totalSnapshots := UInt64.ofNat snapshots.length
    durationSeconds := Int64.ofInt (elapsedSeconds snapshots)
    peakCpuWorkers := peak (telemetries.map (·.cpuActive))
    peakMemWorkers := peak (telemetries.map (·.memActive))
    peakRetainedBytes := peak (telemetries.map (·.retainedBytes))
    cpuIterations := last.cpuIterations
    allocAttempts := last.allocAttempts
    allocSuccesses := last.allocSuccesses
    allocFailures := last.allocFailures
    cpuSeconds := greatest (usages.map (·.cpuSecs))
    peakRssKb := peak (usages.map (·.maxRssKb)) }

end ResourceFaults
