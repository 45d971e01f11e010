import ResourceFaults.Decimal.Whole
import ResourceFaults.Text.Raw

/-!
# Command-line grammars

A grammar says which options a program has, how each of them is spelled and what
it does to the settings of the program.  An option takes one value or none; an
option without a value is a flag.  A flag may also ask for an answer, such as the
help text, in place of a run.

A grammar with `words` takes words after its options.  From the first word on
every argument is a word, whatever it looks like.
-/

namespace ResourceFaults.Arguments

open Text (RawText)

/-- How an option is spelled: `-s`, `--long`, and the name of its value. -/
structure Spelling where
  short : Option Char
  long : String
  value : Option String
  deriving DecidableEq, Repr, Inhabited

/-- How a message names an option. -/
def Spelling.name (s : Spelling) : String :=
  match s.value with
  | some value => s!"--{s.long} <{value}>"
  | none => "--" ++ s.long

/-- Why a value is not one that its option takes. -/
inductive ValueFault where
  | number (fault : Decimal.NumberFault)
  | outOfRange (i : Int) (limit : Nat)
  | notText
  | empty
  deriving DecidableEq, Repr

/-- What an option asks for: settings to change, or an answer to give. -/
inductive Effect (σ ι : Type) where
  | change (update : σ → σ)
  | answer (i : ι)

/-- A grammar with options `κ`, settings `σ` and answers `ι`.  `read` is what an
option does with its value, or with none if it is a flag, and `display` is how a
message shows what the user wrote. -/
structure Grammar (κ σ ι : Type) where
  program : String
  options : List κ
  spelling : κ → Spelling
  read : κ → Option RawText → Except ValueFault (Effect σ ι)
  grouped : κ → Bool
  words : Option String
  footer : String
  display : String → String
  blank : σ

namespace Grammar

variable {κ σ ι : Type}

/-- How a message names an option. -/
def name (g : Grammar κ σ ι) (k : κ) : String :=
  (g.spelling k).name

/-- Whether an option takes a value. -/
def takesValue (g : Grammar κ σ ι) (k : κ) : Bool :=
  (g.spelling k).value.isSome

/-- The option of a long name. -/
def ofLong? (g : Grammar κ σ ι) (name : RawText) : Option κ :=
  g.options.find? fun k => name == RawText.ofString (g.spelling k).long

/-- The option of a letter. -/
def ofShort? (g : Grammar κ σ ι) (c : Char) : Option κ :=
  g.options.find? fun k => (g.spelling k).short == some c

end Grammar

/-! ## Values -/

/-- Reads the value of an option as text. -/
def readText (value : Option RawText) : Except ValueFault (List Char) :=
  match (value.getD []).chars? with
  | some cs => .ok cs
  | none => .error .notText

/-- A number of 64 bits. -/
def readWord (value : Option RawText) : Except ValueFault UInt64 := do
  let cs ← readText value
  match Decimal.readWord cs with
  | .ok n => .ok (UInt64.ofNat n)
  | .error fault => .error (.number fault)

/-- The greatest number of 32 bits. -/
def maxHalfWord : Nat := span 32 - 1

/-- A number of 32 bits, which is read with a sign before its range is
checked. -/
def readHalfWord (value : Option RawText) : Except ValueFault UInt32 := do
  let cs ← readText value
  match Decimal.readInteger (span 63 - 1) cs with
  | .ok i =>
    if 0 ≤ i ∧ i ≤ maxHalfWord then .ok (UInt32.ofNat i.toNat)
    else .error (.outOfRange i maxHalfWord)
  | .error fault => .error (.number fault)

/-- The path of a file, which must not be empty. -/
def readPath (value : Option RawText) : Except ValueFault RawText :=
  match value.getD [] with
  | [] => .error .empty
  | path => .ok path

end ResourceFaults.Arguments
