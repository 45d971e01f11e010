import ResourceFaults.Decimal.Shortest
import ResourceFaults.Text.Quoted

/-!
# Why a JSON text was refused

A fault is of one of three kinds: the text ends too early, it is not JSON, or it
is JSON of the wrong shape.  `ReadError` is a fault with its place: the line, and
the number of bytes of that line read so far.

While reading, a fault carries what was left of the text instead of a place
(`Stop`); `Stop.error` works the place out once, at the end.
-/

namespace ResourceFaults.Json

/-- Numbers stand positionally from `0.00001` to below ten thousand billion. -/
def numberLayout : Decimal.Layout := ⟨-5, 16⟩

/-- A finite number, or `null` for what is no number. -/
def realChars (x : Float) : List Char :=
  (numberLayout.float? x).getD "null".toList

/-- What stood in a text where something else was expected. -/
inductive Found where
  | null
  | boolean (b : Bool)
  | integer (i : Int)
  | real (x : Float)
  | string (s : String)
  | list
  | object

/-- How a message names what it found. -/
def Found.message : Found → String
  | null => "null"
  | boolean b => s!"boolean `{b}`"
  | integer i => s!"integer `{i}`"
  | real x => "floating point `" ++ String.ofList (realChars x) ++ "`"
  | string s => "string " ++ Text.quoted s
  | list => "sequence"
  | object => "map"

/-- What is wrong with a text. -/
inductive ReadFault where
  | endInList
  | endInObject
  | endInString
  | endInValue
  | expectedColon
  | expectedListEnd
  | expectedObjectEnd
  | expectedIdent
  | expectedValue
  | invalidEscape
  | invalidNumber
  | numberOutOfRange
  | controlCharacter
  | keyNotString
  | loneSurrogate
  | trailingComma
  | trailingCharacters
  | brokenSurrogate
  | invalidType (found : Found) (expected : String)
  | invalidValue (found : Found) (expected : String)
  | invalidLength (count : Nat) (expected : String)
  | duplicateField (name : String)
  | missingField (name : String)
  | unreadable (reason : String)

/-- The three kinds of fault. -/
inductive Category where
  | early
  | grammar
  | data
  deriving DecidableEq, Repr

namespace ReadFault

/-- The kind of a fault. -/
def category : ReadFault → Category
  | endInList | endInObject | endInString | endInValue => .early
  | invalidType .. | invalidValue .. | invalidLength .. | duplicateField _
  | missingField _ | unreadable _ => .data
  | _ => .grammar

/-- The wording of a fault. -/
def message : ReadFault → String
  | endInList => "EOF while parsing a list"
  | endInObject => "EOF while parsing an object"
  | endInString => "EOF while parsing a string"
  | endInValue => "EOF while parsing a value"
  | expectedColon => "expected `:`"
  | expectedListEnd => "expected `,` or `]`"
  | expectedObjectEnd => "expected `,` or `\x7d`"
  | expectedIdent => "expected ident"
  | expectedValue => "expected value"
  | invalidEscape => "invalid escape"
  | invalidNumber => "invalid number"
  | numberOutOfRange => "number out of range"
  | controlCharacter => "control character (\\u0000-\\u001F) found while parsing a string"
  | keyNotString => "key must be a string"
  | loneSurrogate => "lone leading surrogate in hex escape"
  | trailingComma => "trailing comma"
  | trailingCharacters => "trailing characters"
  | brokenSurrogate => "unexpected end of hex escape"
  | invalidType found expected => s!"invalid type: {found.message}, expected {expected}"
  | invalidValue found expected => s!"invalid value: {found.message}, expected {expected}"
  | invalidLength count expected => s!"invalid length {count}, expected {expected}"
  | duplicateField name => s!"duplicate field `{name}`"
  | missingField name => s!"missing field `{name}`"
  | unreadable reason => reason

end ReadFault

/-- A place in a text: the line, from one, and the bytes of it read so far. -/
structure Place where
  line : Nat
  column : Nat
  deriving DecidableEq, Repr

namespace Place

/-- Before the first character. -/
def start : Place := ⟨1, 0⟩

/-- After one more character. -/
def after (p : Place) (c : Char) : Place :=
  if c == '\n' then ⟨p.line + 1, 0⟩ else ⟨p.line, p.column + c.utf8Size⟩

/-- After some more bytes, which may end inside a character. -/
def forward (p : Place) : (bytes : Nat) → List Char → Place
  | _, [] => p
  | bytes, c :: cs =>
    if c.utf8Size ≤ bytes then (p.after c).forward (bytes - c.utf8Size) cs
    else ⟨p.line, p.column + bytes⟩

end Place

/-- A fault met while `rest` was left to read, `extra` bytes further on. -/
structure Stop where
  fault : ReadFault
  rest : List Char
  extra : Nat

/-- A fault with its place. -/
structure ReadError where
  fault : ReadFault
  place : Place

/-- The place of a fault in the text that was being read. -/
def Stop.error (stop : Stop) (text : List Char) : ReadError :=
  let reached := (text.take (text.length - stop.rest.length)).foldl Place.after Place.start
  ⟨stop.fault, reached.forward stop.extra stop.rest⟩

/-- The wording of a fault with its place. -/
def ReadError.message (e : ReadError) : String :=
  s!"{e.fault.message} at line {e.place.line} column {e.place.column}"

end ResourceFaults.Json
