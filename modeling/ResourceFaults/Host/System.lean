import ResourceFaults.Clock
import ResourceFaults.Time.Moment
import ResourceFaults.Usage

/-!
# What the system tells the host

The system keeps texts on itself and on each of its processes.  `SystemTexts`
holds those that a session looks at, and reads off them who the host is, what it
has used, how much memory is left, and what time it is.
-/

namespace ResourceFaults.Host

/-- Texts of the system: on the host, its memory and its pages; on the memory of
all processes; on what has happened since the start of the system; and on how
long that was ago. -/
structure SystemTexts where
  process : String
  memory : String
  pages : String
  available : String
  events : String
  uptime : String

namespace SystemTexts

/-- The size of a page in bytes. -/
def pageSize : UInt64 := 4096

/-- A time in hundredths of a second, in seconds. -/
def secondsOfTicks (ticks : Nat) : Float :=
  ticks.toFloat / 100

/-- A number at some place of a list of words. -/
def numberAt? (words : List (List Char)) (place : Nat) : Option Nat :=
  words[place]?.bind fun word => (Decimal.readWord word).toOption

/-- The number of the host among all processes. -/
def self? (t : SystemTexts) : Option UInt32 :=
  (numberAt? (Text.wordChars t.process.toList) 0).map UInt32.ofNat

/-- What is said of the host after its name, which may hold anything; the name
stands in brackets. -/
def afterName (t : SystemTexts) : List (List Char) :=
  Text.wordChars (t.process.toList.reverse.takeWhile (· != ')')).reverse

/-- What the host has used. -/
def usage? (t : SystemTexts) : Option ProcessUsage := do
  let user ← numberAt? t.afterName 11
  let system ← numberAt? t.afterName 12
  let peak ← peakMemory? t.memory
  some
    { userCpuSecs := secondsOfTicks user
      systemCpuSecs := secondsOfTicks system
      maxRssKb := peak
      residentKb := residentMemory? t.pages pageSize }

/-- The memory that is left, in bytes. -/
def available? (t : SystemTexts) : Option UInt64 :=
  availableMemory? t.available

/-- The time since the start of the system, which is told in seconds with two
places. -/
def sinceStart? (t : SystemTexts) : Option Nanos :=
  match Text.wordChars t.uptime.toList with
  | word :: _ =>
    (Decimal.readWord (word.filter (· != '.'))).toOption.map fun n => n * 10000000
  | [] => none

/-- What time it is: the system names the second in which it started. -/
def moment (t : SystemTexts) : Time.Moment :=
  let start := (figure? "btime" t.events).getD 0
  Time.Moment.afterEpoch (Nanos.ofSeconds start + t.sinceStart?.getD 0)

end SystemTexts

end ResourceFaults.Host
