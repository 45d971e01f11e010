import ResourceFaults.Decimal.Whole
import ResourceFaults.Text.Blank
import ResourceFaults.Time.Moment

/-!
# Moments as text

Writing follows RFC 3339 in universal time: `2024-03-01T12:00:00.5Z`, with no,
three, six or nine digits of a second, whichever is the first that loses nothing.
A year outside four digits has a sign and at least four digits.

Reading is more generous.  Blanks may stand around the numbers, a number may have
fewer digits than usual, a year with a sign may have more, the date and the time
are parted by `T`, `t` or one space, and the offset is `Z`, `z`, `UTC` in any
case, or hours and minutes after a plus sign, a hyphen or a minus sign.  The
faults are raised in the order in which the text is read.
-/

namespace ResourceFaults.Time

open Decimal (digits digit?)
open Text (isBlank trimStart)

/-- Why a text is no moment. -/
inductive MomentFault where
  | tooShort
  | invalid
  | outOfRange
  | impossible
  | trailing
  deriving DecidableEq, Repr

/-- The wording of a fault. -/
def MomentFault.message : MomentFault → String
  | tooShort => "premature end of input"
  | invalid => "input contains invalid characters"
  | outOfRange => "input is out of range"
  | impossible => "no possible date and time matching input"
  | trailing => "trailing input"

/-! ## Writing -/

/-- A number with at least `width` digits. -/
def padded (width n : Nat) : List Char :=
  let ds := digits n
  List.replicate (width - ds.length) '0' ++ ds

/-- Four digits, or a sign and at least four digits. -/
def yearDigits (year : Int) : List Char :=
  if 0 ≤ year ∧ year ≤ 9999 then padded 4 year.toNat
  else (if year < 0 then '-' else '+') :: padded 4 year.natAbs

/-- A fraction of a second by as many groups of three digits as it needs. -/
def fractionDigits (nano : Nat) : List Char :=
  if nano == 0 then []
  else if nano % 1000000 == 0 then '.' :: padded 3 (nano / 1000000)
  else if nano % 1000 == 0 then '.' :: padded 6 (nano / 1000)
  else '.' :: padded 9 nano

/-- A moment in universal time.  A leap second is the second `60`. -/
def Moment.chars (m : Moment) : List Char :=
  let leap := nanosPerSecond ≤ m.nano
  let second := m.second % 60 + if leap then 1 else 0
  let nano := if leap then m.nano - nanosPerSecond else m.nano
  yearDigits m.date.year ++ '-' :: padded 2 m.date.month ++ '-' :: padded 2 m.date.day
    ++ 'T' :: padded 2 (m.second / 3600) ++ ':' :: padded 2 (m.second / 60 % 60)
    ++ ':' :: padded 2 second ++ fractionDigits nano ++ ['Z']

/-- A moment as text. -/
def Moment.text (m : Moment) : String :=
  String.ofList m.chars

/-! ## Reading -/

/-- Continues `value` by at most `most` digits; a value beyond 63 bits is out of
range. -/
def readUpTo :
    (most : Nat) → (value : Nat) → List Char → Except MomentFault (Nat × List Char)
  | 0, value, cs => .ok (value, cs)
  | _ + 1, value, [] => .ok (value, [])
  | most + 1, value, c :: cs =>
    match digit? c with
    | none => .ok (value, c :: cs)
    | some d =>
      if span 63 ≤ value * 10 + d then .error .outOfRange
      else readUpTo most (value * 10 + d) cs

/-- A number of one to `most` digits. -/
def readNumber (most : Nat) : List Char → Except MomentFault (Nat × List Char)
  | [] => .error .tooShort
  | c :: cs => if (digit? c).isNone then .error .invalid else readUpTo most 0 (c :: cs)

/-- A number from `low` to `high` of one or two digits, after blanks. -/
def readField (low high : Nat) (cs : List Char) : Except MomentFault (Nat × List Char) := do
  let (n, rest) ← readNumber 2 (trimStart cs)
  if low ≤ n && n ≤ high then .ok (n, rest) else .error .outOfRange

/-- A year after blanks: up to four digits, or a sign and any number of them.
The result fits 32 bits. -/
def readYear (cs : List Char) : Except MomentFault (Int × List Char) := do
  let (year, rest) ← match trimStart cs with
    | '-' :: rest => (readNumber rest.length rest).map fun (n, rest) => (-(n : Int), rest)
    | '+' :: rest => (readNumber rest.length rest).map fun (n, rest) => ((n : Int), rest)
    | cs => (readNumber 4 cs).map fun (n, rest) => ((n : Int), rest)
  if -span 31 ≤ year && year < span 31 then .ok (year, rest) else .error .outOfRange

/-- A given mark, after blanks. -/
def readMark (mark : Char) (cs : List Char) : Except MomentFault (Unit × List Char) :=
  match trimStart cs with
  | [] => .error .tooShort
  | c :: rest => if c == mark then .ok ((), rest) else .error .invalid

/-- A fraction after a point, in nanoseconds: nine digits count, further ones are
skipped.  Without a point the fraction is zero. -/
def readFraction : List Char → Except MomentFault (Nat × List Char)
  | '.' :: cs => do
    let (n, rest) ← readNumber 9 cs
    let scaled := n * Decimal.tenTo (9 - (cs.length - rest.length))
    .ok (scaled, rest.dropWhile fun c => (digit? c).isSome)
  | cs => .ok (0, cs)

/-- Two digits at the front, the first of them below `tens`. -/
def readPair (tens : Nat) : List Char → Except MomentFault (Nat × List Char)
  | a :: b :: rest =>
    match digit? a, digit? b with
    | some x, some y => if x < tens then .ok (x * 10 + y, rest) else .error .outOfRange
    | _, _ => .error .invalid
  | [a] => .error (if a.utf8Size < 2 then .tooShort else .invalid)
  | [] => .error .tooShort

/-- Hours and minutes after the sign of an offset, in seconds.  Colons and blanks
may stand between the two. -/
def readHoursMinutes (cs : List Char) : Except MomentFault (Nat × List Char) := do
  let (hours, rest) ← readPair 10 cs
  let (minutes, rest) ← readPair 6 (rest.dropWhile fun c => c == ':' || isBlank c)
  .ok (hours * 3600 + minutes * 60, rest)

/-- An offset from universal time, in seconds. -/
def readOffset (cs : List Char) : Except MomentFault (Int × List Char) :=
  match cs with
  | [] => .error .tooShort
  | 'Z' :: rest | 'z' :: rest => .ok (0, rest)
  | '+' :: rest => (readHoursMinutes rest).map fun (n, rest) => ((n : Int), rest)
  | '-' :: rest | '\u2212' :: rest =>
    (readHoursMinutes rest).map fun (n, rest) => (-(n : Int), rest)
  | u :: t :: c :: rest =>
    if u.toLower == 'u' && t.toLower == 't' && c.toLower == 'c' then .ok (0, rest)
    else .error .invalid
  | _ => .error .invalid

/-- The mark between date and time. -/
def readSeparator : List Char → Except MomentFault (Unit × List Char)
  | [] => .error .tooShort
  | c :: rest =>
    if c == 'T' || c == 't' || c == ' ' then .ok ((), rest) else .error .invalid

/-- A moment.  The second `60` is the leap second after second `59`. -/
def Moment.read (cs : List Char) : Except MomentFault Moment := do
  let (year, cs) ← readYear cs
  let (_, cs) ← readMark '-' cs
  let (month, cs) ← readField 1 12 cs
  let (_, cs) ← readMark '-' cs
  let (day, cs) ← readField 1 31 cs
  let (_, cs) ← readSeparator cs
  let (hour, cs) ← readField 0 23 cs
  let (_, cs) ← readMark ':' cs
  let (minute, cs) ← readField 0 59 cs
  let (_, cs) ← readMark ':' cs
  let (second, cs) ← readField 0 60 cs
  let (nano, cs) ← readFraction cs
  let (offset, cs) ← readOffset (trimStart cs)
  if !(trimStart cs).isEmpty then .error .trailing
  else
    match Date.ofParts? year month day with
    | none => .error .outOfRange
    | some date =>
      if secondsPerDay ≤ offset.natAbs then .error .outOfRange
      else
        let shown : Moment :=
          { date
            second := hour * 3600 + minute * 60 + min second 59
            nano := if second == 60 then nano + nanosPerSecond else nano }
        match shown.ofLocal? offset with
        | none => .error .impossible
        | some moment => .ok moment

end ResourceFaults.Time
