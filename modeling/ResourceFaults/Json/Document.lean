import ResourceFaults.Decimal.Whole
import ResourceFaults.Json.Error

/-!
# JSON documents and their text

`Document` is what is written: a tree of values with fields in a fixed order.
`Document.compact` writes it on one line without blanks, `Document.pretty` with
one entry a line and two spaces for each level.
-/

namespace ResourceFaults.Json

/-- A tree of values. -/
inductive Document where
  | null
  | boolean (b : Bool)
  | integer (i : Int)
  | real (x : Float)
  | string (s : String)
  | list (items : List Document)
  | object (fields : List (String × Document))

/-- A character as it stands in a JSON string. -/
def escapeChar (c : Char) : List Char :=
  match c with
  | '"' => ['\\', '"']
  | '\\' => ['\\', '\\']
  | '\x08' => ['\\', 'b']
  | '\x0c' => ['\\', 'f']
  | '\n' => ['\\', 'n']
  | '\r' => ['\\', 'r']
  | '\t' => ['\\', 't']
  | _ =>
    if c.toNat < 0x20 then
      ['\\', 'u', '0', '0', Text.hexDigit (c.toNat / 16), Text.hexDigit (c.toNat % 16)]
    else [c]

/-- A JSON string. -/
def stringChars (s : String) : List Char :=
  '"' :: s.toList.flatMap escapeChar ++ ['"']

mutual

/-- A document on one line. -/
def Document.compactChars : Document → List Char
  | .null => "null".toList
  | .boolean b => (if b then "true" else "false").toList
  | .integer i => Decimal.signedDigits i
  | .real x => realChars x
  | .string s => stringChars s
  | .list items => '[' :: compactItems true items ++ [']']
  | .object fields => '\x7b' :: compactFields true fields ++ ['\x7d']

/-- The items of a list; all but the first have a comma in front. -/
def compactItems : (first : Bool) → List Document → List Char
  | _, [] => []
  | first, d :: ds => (if first then [] else [',']) ++ d.compactChars ++ compactItems false ds

/-- The fields of an object; all but the first have a comma in front. -/
def compactFields : (first : Bool) → List (String × Document) → List Char
  | _, [] => []
  | first, (name, d) :: fields =>
    (if first then [] else [',']) ++ stringChars name ++ ':' :: d.compactChars
      ++ compactFields false fields

end

/-- A new line at a level of nesting. -/
def newLine (level : Nat) : List Char :=
  '\n' :: List.replicate (2 * level) ' '

mutual

/-- A document with one entry a line, at a level of nesting. -/
def Document.prettyChars (level : Nat) : Document → List Char
  | .null => "null".toList
  | .boolean b => (if b then "true" else "false").toList
  | .integer i => Decimal.signedDigits i
  | .real x => realChars x
  | .string s => stringChars s
  | .list [] => ['[', ']']
  | .list (d :: ds) => '[' :: prettyItems (level + 1) true (d :: ds) ++ newLine level ++ [']']
  | .object [] => ['\x7b', '\x7d']
  | .object (f :: fs) =>
    '\x7b' :: prettyFields (level + 1) true (f :: fs) ++ newLine level ++ ['\x7d']

/-- The items of a list, each on a line of its own. -/
def prettyItems (level : Nat) : (first : Bool) → List Document → List Char
  | _, [] => []
  | first, d :: ds =>
    (if first then [] else [',']) ++ newLine level ++ d.prettyChars level
      ++ prettyItems level false ds

/-- The fields of an object, each on a line of its own. -/
def prettyFields (level : Nat) : (first : Bool) → List (String × Document) → List Char
  | _, [] => []
  | first, (name, d) :: fields =>
    (if first then [] else [',']) ++ newLine level ++ stringChars name ++ ':' :: ' '
      :: d.prettyChars level ++ prettyFields level false fields

end

/-- A document on one line. -/
def Document.compact (d : Document) : String :=
  String.ofList d.compactChars

/-- A document with one entry a line. -/
def Document.pretty (d : Document) : String :=
  String.ofList (d.prettyChars 0)

end ResourceFaults.Json
