import ResourceFaults.Decimal.Whole
import ResourceFaults.Text.Blank
import ResourceFaults.Text.Lines

/-!
# Resource usage

What a process has used, and how the system's own figures are read: some from a
text with one named figure a line, such as the memory that is still available,
and the resident memory of a process from a line of page counts.
-/

namespace ResourceFaults

/-- The resource usage of a process. -/
structure ProcessUsage where
  userCpuSecs : Float := 0
  systemCpuSecs : Float := 0
  maxRssKb : UInt64 := 0
  residentKb : Option UInt64 := none
  deriving Inhabited

/-- The processor time, in user and system mode together. -/
def ProcessUsage.cpuSecs (u : ProcessUsage) : Float :=
  u.userCpuSecs + u.systemCpuSecs

/-- Seconds and microseconds as seconds. -/
def secondsOf (seconds micros : Int64) : Float :=
  seconds.toFloat + micros.toFloat / 1000000

/-- A figure in KiB by one line of figures, if the line decides it: it has at
least two words and the first is the name of the figure.  The second word is the
figure; the answer is `none` if it is no number. -/
def figureOnLine? (name : String) (line : List Char) : Option (Option Nat) :=
  match Text.wordChars line with
  | word :: figure :: _ =>
    if word == name.toList then some (Decimal.readWord figure).toOption else none
  | _ => none

/-- A figure in KiB, by the first line that decides it. -/
def figure? (name text : String) : Option Nat :=
  let lines := Text.lines '\n' '\r' text.toList
  (lines.findSome? (figureOnLine? name)).getD none

/-- The available memory in bytes. -/
def availableMemory? (text : String) : Option UInt64 :=
  (figure? "MemAvailable:" text).map fun kb => UInt64.ofNat (saturatingMul kb 1024)

/-- The largest amount of memory that a process has had, in KiB. -/
def peakMemory? (text : String) : Option UInt64 :=
  (figure? "VmHWM:" text).map UInt64.ofNat

/-- The resident memory in KiB: the second word is a number of pages. -/
def residentMemory? (text : String) (page : UInt64) : Option UInt64 :=
  match Text.wordChars text.toList with
  | _ :: figure :: _ =>
    (Decimal.readWord figure).toOption.map fun pages =>
      UInt64.ofNat (saturatingMul pages page.toNat / 1024)
  | _ => none

end ResourceFaults
