import ResourceFaults.Json.Codec

/-!
# Records

A record is a value with named fields in a fixed order.  It is written as an
object; it is read from an object with its fields in any order, or from a list of
its fields in their order.  In an object, a field that the record does not have
is skipped, a field that comes twice is a fault, and so is a field that does not
come at all unless it is optional.

A record is read into a blank value: each field that arrives sets its part.
-/

namespace ResourceFaults.Json

/-- One field of a record of type `α`. -/
structure Field (α : Type) where
  name : String
  optional : Bool
  write : α → Document
  read : List Char → Except Stop ((α → α) × List Char)

/-- A field from the codec of its value. -/
def Field.of {α β : Type} (name : String) (codec : Codec β) (get : α → β) (set : β → α → α) :
    Field α where
  name
  optional := false
  write a := codec.write (get a)
  read cs := (codec.read cs).map fun (b, rest) => (set b, rest)

/-- A field that may be absent or `null`. -/
def Field.ofOptional {α β : Type} (name : String) (codec : Codec β) (get : α → Option β)
    (set : Option β → α → α) : Field α :=
  { Field.of name codec.optional get set with optional := true }

/-- A kind of record: its name, its fields, and the value that reading starts
from. -/
structure Record (α : Type) where
  name : String
  fields : List (Field α)
  blank : α

namespace Record

variable {α : Type}

/-- What a fault calls a value of this kind. -/
def expected (r : Record α) : String :=
  "struct " ++ r.name

/-- What a fault calls the right number of fields. -/
def expectedLength (r : Record α) : String :=
  s!"{r.expected} with {r.fields.length} elements"

/-! ## From a list -/

/-- The fields of a record from the items of a list, the first `done` of which
have been read. -/
def readInOrder (r : Record α) :
    (done : Nat) → List (Field α) → α → List Char → Except Stop (α × List Char)
  | _, [], a, cs => .ok (a, cs)
  | done, field :: fields, a, cs => do
    let (more, cs) ← Codec.nextItem (done == 0) cs
    if more then
      let (set, cs) ← field.read cs
      r.readInOrder (done + 1) fields (set a) cs
    else .error ⟨.invalidLength done r.expectedLength, cs.drop 1, 0⟩

/-- The end of a list after the last field of a record. -/
def closeList (cs : List Char) : Except Stop (List Char) :=
  match skipSpace cs with
  | [] => .error ⟨.endInList, [], 0⟩
  | c :: rest =>
    if c == ']' then .ok rest
    else if c == ',' then
      match skipSpace rest with
      | ']' :: rest => .error ⟨.trailingComma, ']' :: rest, 1⟩
      | rest => .error ⟨.trailingCharacters, rest, 1⟩
    else .error ⟨.trailingCharacters, c :: rest, 1⟩

/-! ## From an object -/

/-- The name of the next entry of an object; `none` at the end of the object,
which is left to read.  The first entry has no comma in front. -/
def nextKey (first : Bool) (cs : List Char) : Except Stop (Option String × List Char) :=
  let key (rest : List Char) : Except Stop (Option String × List Char) :=
    (readString rest).map fun (name, rest) => (some (String.ofList name), rest)
  match skipSpace cs with
  | [] => .error ⟨.endInObject, [], 0⟩
  | c :: rest =>
    if c == '\x7d' then .ok (none, c :: rest)
    else if first then
      if c == '"' then key rest else .error ⟨.keyNotString, c :: rest, 1⟩
    else if c == ',' then
      match skipSpace rest with
      | [] => .error ⟨.endInValue, [], 0⟩
      | c :: rest =>
        if c == '"' then key rest
        else if c == '\x7d' then .error ⟨.trailingComma, c :: rest, 1⟩
        else .error ⟨.keyNotString, c :: rest, 1⟩
    else .error ⟨.expectedObjectEnd, c :: rest, 1⟩

/-- The colon after a name. -/
def readColon (cs : List Char) : Except Stop (List Char) :=
  match skipSpace cs with
  | [] => .error ⟨.endInObject, [], 0⟩
  | c :: rest => if c == ':' then .ok rest else .error ⟨.expectedColon, c :: rest, 1⟩

/-- A fault that is noticed inside an object stands after the blanks that
follow, and after the end of the object if it is there. -/
def objectFault (fault : ReadFault) (cs : List Char) : Stop :=
  match skipSpace cs with
  | '\x7d' :: rest => ⟨fault, rest, 0⟩
  | rest => ⟨fault, rest, 0⟩

/-- The entries of an object up to its end, which is left to read.  `seen` are
the names that have come, and `fuel` bounds the number of entries. -/
def readEntries (r : Record α) :
    (fuel : Nat) → (first : Bool) → (seen : List String) → α → List Char →
    Except Stop ((List String × α) × List Char)
  | 0, _, _, _, _ => .error ⟨.endInObject, [], 0⟩
  | fuel + 1, first, seen, a, cs => do
    match ← nextKey first cs with
    | (none, cs) => .ok ((seen, a), cs)
    | (some name, cs) =>
      match r.fields.find? (·.name == name) with
      | none =>
        let cs ← readColon cs
        let cs ← skipValue cs
        r.readEntries fuel false seen a cs
      | some field =>
        if seen.contains name then .error (objectFault (.duplicateField name) cs)
        else
          let cs ← readColon cs
          let (set, cs) ← field.read cs
          r.readEntries fuel false (name :: seen) (set a) cs

/-- The first field that must come and has not. -/
def missing? (r : Record α) (seen : List String) : Option (Field α) :=
  r.fields.find? fun field => !field.optional && !seen.contains field.name

/-- The entries of an object and its end. -/
def readObject (r : Record α) (cs : List Char) : Except Stop (α × List Char) := do
  let ((seen, a), rest) ← r.readEntries (cs.length + 1) true [] r.blank cs
  match r.missing? seen with
  | some field => .error ⟨.missingField field.name, rest.drop 1, 0⟩
  | none => .ok (a, rest.drop 1)

/-! ## The codec -/

/-- Reads a record. -/
def read (r : Record α) (cs : List Char) : Except Stop (α × List Char) :=
  match skipSpace cs with
  | [] => .error ⟨.endInValue, [], 0⟩
  | c :: rest =>
    if c == '[' then do
      let (a, rest) ← r.readInOrder 0 r.fields r.blank rest
      let rest ← closeList rest
      .ok (a, rest)
    else if c == '\x7b' then r.readObject rest
    else .error (mismatch r.expected (c :: rest))

/-- Writes a record as an object. -/
def write (r : Record α) (a : α) : Document :=
  .object (r.fields.map fun field => (field.name, field.write a))

/-- The codec of a record. -/
def codec (r : Record α) : Codec α where
  write := r.write
  read := r.read

end Record

end ResourceFaults.Json
