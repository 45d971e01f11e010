import ResourceFaults.Json.Document
import ResourceFaults.Json.Skipped
import ResourceFaults.Time.Rfc3339

/-!
# Codecs

A codec ties the two directions of one type together: how a value is written as
a document, and how it is read from a text.  This file has the codecs of scalars,
optional values and lists; `Codec.record` builds the others.

Reading is strict.  A whole number must be written without point and exponent
and must fit, `null` stands only for a value that is optional, and a value of
another kind is a fault that names both kinds.
-/

namespace ResourceFaults.Json

/-- How a type is written and read. -/
structure Codec (α : Type) where
  write : α → Document
  read : List Char → Except Stop (α × List Char)

namespace Codec

/-- Reads a number and converts it; `.error` names what was found instead. -/
def readConverted {α : Type} (expected : String)
    (convert : Number → Except ReadFault α) (cs : List Char) : Except Stop (α × List Char) :=
  match skipSpace cs with
  | [] => .error ⟨.endInValue, [], 0⟩
  | c :: rest =>
    if c == '-' || startsWithDigit (c :: rest) then
      match readNumber (c :: rest) with
      | .error stop => .error stop
      | .ok (n, rest) =>
        match convert n with
        | .ok a => .ok (a, rest)
        | .error fault => .error ⟨fault, rest, 0⟩
    else .error (mismatch expected (c :: rest))

/-- A whole number from `low` to below `beyond`. -/
def wholeBetween (low beyond : Int) (expected : String) : Number → Except ReadFault Int
  | .integer i =>
    if low ≤ i ∧ i < beyond then .ok i else .error (.invalidValue (.integer i) expected)
  | .real x => .error (.invalidType (.real x) expected)

/-- A whole number of 64 bits, under the name that its faults give it. -/
def wordNamed (expected : String) : Codec UInt64 where
  write n := .integer n.toNat
  read cs := (readConverted expected (wholeBetween 0 (span 64) expected) cs).map
    fun (i, rest) => (UInt64.ofNat i.toNat, rest)

/-- A counter. -/
def word : Codec UInt64 := wordNamed "u64"

/-- A count of things in memory. -/
def size : Codec UInt64 := wordNamed "usize"

/-- A whole number of 32 bits. -/
def halfWord : Codec UInt32 where
  write n := .integer n.toNat
  read cs := (readConverted "u32" (wholeBetween 0 (span 32) "u32") cs).map
    fun (i, rest) => (UInt32.ofNat i.toNat, rest)

/-- A whole number of 64 bits with a sign. -/
def signedWord : Codec Int64 where
  write n := .integer n.toInt
  read cs := (readConverted "i64" (wholeBetween (-span 63) (span 63) "i64") cs).map
    fun (i, rest) => (Int64.ofInt i, rest)

/-- The nearest number of double precision. -/
def Number.toFloat : Number → Float
  | .integer i => if i < 0 then -i.natAbs.toUInt64.toFloat else i.natAbs.toUInt64.toFloat
  | .real x => x

/-- A number of double precision. -/
def real : Codec Float where
  write x := .real x
  read := readConverted "f64" fun n => .ok (Number.toFloat n)

/-- A truth value. -/
def boolean : Codec Bool where
  write b := .boolean b
  read cs :=
    match skipSpace cs with
    | [] => .error ⟨.endInValue, [], 0⟩
    | c :: rest =>
      if c == 't' then (readWordRest "rue".toList rest).map fun rest => (true, rest)
      else if c == 'f' then (readWordRest "alse".toList rest).map fun rest => (false, rest)
      else .error (mismatch "a boolean" (c :: rest))

/-- Reads a string and converts it; `.error` says why it is none of its kind. -/
def readConvertedString {α : Type} (expected : String) (convert : List Char → Except String α)
    (cs : List Char) : Except Stop (α × List Char) :=
  match skipSpace cs with
  | [] => .error ⟨.endInValue, [], 0⟩
  | c :: rest =>
    if c == '"' then
      match readString rest with
      | .error stop => .error stop
      | .ok (s, rest) =>
        match convert s with
        | .ok a => .ok (a, rest)
        | .error reason => .error ⟨.unreadable reason, rest, 0⟩
    else .error (mismatch expected (c :: rest))

/-- A text. -/
def string : Codec String where
  write s := .string s
  read := readConvertedString "a string" fun s => .ok (String.ofList s)

/-- A moment of universal time. -/
def moment : Codec Time.Moment where
  write m := .string m.text
  read := readConvertedString "an RFC 3339 formatted date and time string" fun s =>
    (Time.Moment.read s).mapError Time.MomentFault.message

/-- A value that may be missing. -/
def optional {α : Type} (codec : Codec α) : Codec (Option α) where
  write
    | some a => codec.write a
    | none => .null
  read cs :=
    match skipSpace cs with
    | 'n' :: rest => (readWordRest "ull".toList rest).map fun rest => (none, rest)
    | cs => (codec.read cs).map fun (a, rest) => (some a, rest)

/-- What is in front of the next item of a list: the item, or the end of the
list.  The first item has no comma in front. -/
def nextItem (first : Bool) (cs : List Char) : Except Stop (Bool × List Char) :=
  match skipSpace cs with
  | [] => .error ⟨.endInList, [], 0⟩
  | c :: rest =>
    if c == ']' then .ok (false, c :: rest)
    else if first then .ok (true, c :: rest)
    else if c == ',' then
      match skipSpace rest with
      | [] => .error ⟨.endInValue, [], 0⟩
      | c :: rest =>
        if c == ']' then .error ⟨.trailingComma, c :: rest, 1⟩ else .ok (true, c :: rest)
    else .error ⟨.expectedListEnd, c :: rest, 1⟩

/-- The items of a list up to its closing bracket, which is left to read.
`fuel` bounds their number. -/
def readItems {α : Type} (codec : Codec α) :
    (fuel : Nat) → (first : Bool) → List Char → Except Stop (List α × List Char)
  | 0, _, _ => .error ⟨.endInList, [], 0⟩
  | fuel + 1, first, cs => do
    let (more, cs) ← nextItem first cs
    if more then
      let (a, cs) ← codec.read cs
      let (items, cs) ← readItems codec fuel false cs
      .ok (a :: items, cs)
    else .ok ([], cs)

/-- A list. -/
def list {α : Type} (codec : Codec α) : Codec (List α) where
  write as := .list (as.map codec.write)
  read cs :=
    match skipSpace cs with
    | [] => .error ⟨.endInValue, [], 0⟩
    | c :: rest =>
      if c == '[' then
        (readItems codec (rest.length + 1) true rest).map fun (items, rest) =>
          (items, rest.drop 1)
      else .error (mismatch "a sequence" (c :: rest))

/-- Reads a whole text; only blanks may follow the value. -/
def decode {α : Type} (codec : Codec α) (text : String) : Except ReadError α :=
  let cs := text.toList
  match codec.read cs with
  | .error stop => .error (stop.error cs)
  | .ok (a, rest) =>
    match skipSpace rest with
    | [] => .ok a
    | rest => .error (Stop.error ⟨.trailingCharacters, rest, 1⟩ cs)

/-- Writes a value on one line. -/
def compact {α : Type} (codec : Codec α) (a : α) : String :=
  (codec.write a).compact

/-- Writes a value with one entry a line. -/
def pretty {α : Type} (codec : Codec α) (a : α) : String :=
  (codec.write a).pretty

end Codec

end ResourceFaults.Json
