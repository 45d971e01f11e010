import ResourceFaults.Json.Scalar

/-!
# Values that are skipped

A field nobody asked for is read only to find its end.  Its grammar is checked,
its numbers and strings are not evaluated, and lists and objects may be nested to
any depth: `skipFrom` keeps the open ones in a list of frames.
-/

namespace ResourceFaults.Json

open Decimal (digit?)

/-- A list or an object that has been opened. -/
inductive Frame where
  | list
  | object
  deriving DecidableEq, Repr

namespace Frame

/-- The character that ends a frame. -/
def close : Frame → Char
  | list => ']'
  | object => '\x7d'

/-- The fault of a text that ends inside a frame. -/
def unclosed : Frame → ReadFault
  | list => .endInList
  | object => .endInObject

/-- The fault of two entries without a comma between them. -/
def missingComma : Frame → ReadFault
  | list => .expectedListEnd
  | object => .expectedObjectEnd

end Frame

/-- Skips an exponent, after its letter. -/
def skipExponent (cs : List Char) : Except Stop (List Char) :=
  let (_, cs) := readExponentSign cs
  if startsWithDigit cs then .ok (skipDigits cs) else .error ⟨.invalidNumber, cs, 1⟩

/-- Skips a fraction, after its point. -/
def skipFraction (cs : List Char) : Except Stop (List Char) :=
  if startsWithDigit cs then
    match skipDigits cs with
    | 'e' :: rest | 'E' :: rest => skipExponent rest
    | rest => .ok rest
  else .error ⟨.invalidNumber, cs, 1⟩

/-- Skips what follows the whole part of a number. -/
def skipAfterWhole : List Char → Except Stop (List Char)
  | '.' :: rest => skipFraction rest
  | 'e' :: rest | 'E' :: rest => skipExponent rest
  | cs => .ok cs

/-- Skips a number after its sign. -/
def skipUnsigned (cs : List Char) : Except Stop (List Char) :=
  match cs with
  | '0' :: rest =>
    if startsWithDigit rest then .error ⟨.invalidNumber, rest, 1⟩ else skipAfterWhole rest
  | _ =>
    if startsWithDigit cs then skipAfterWhole (skipDigits cs)
    else .error ⟨.invalidNumber, cs, 1⟩

/-- Skips a scalar, or opens a list or an object. -/
def skipStart (cs : List Char) : Except Stop (Option Frame × List Char) :=
  let scalar (rest : Except Stop (List Char)) : Except Stop (Option Frame × List Char) :=
    rest.map fun rest => (none, rest)
  match skipSpace cs with
  | [] => .error ⟨.endInValue, [], 0⟩
  | c :: rest =>
    if c == 'n' then scalar (readWordRest "ull".toList rest)
    else if c == 't' then scalar (readWordRest "rue".toList rest)
    else if c == 'f' then scalar (readWordRest "alse".toList rest)
    else if c == '-' then scalar (skipUnsigned rest)
    else if (digit? c).isSome then scalar (skipUnsigned (c :: rest))
    else if c == '"' then scalar (skipString rest)
    else if c == '[' then .ok (some .list, rest)
    else if c == '\x7b' then .ok (some .object, rest)
    else .error ⟨.expectedValue, c :: rest, 1⟩

/-- What follows an entry, or the opening of a frame if `entry` is false: the
frames that are still open once all that end here are closed.  If any are left,
another entry follows. -/
def skipEnd (entry : Bool) : List Frame → List Char → Except Stop (List Frame × List Char)
  | [], cs => .ok ([], cs)
  | frame :: outer, cs =>
    match skipSpace cs with
    | [] => .error ⟨frame.unclosed, [], 0⟩
    | c :: rest =>
      if c == ',' && entry then .ok (frame :: outer, rest)
      else if c == frame.close then skipEnd true outer rest
      else if entry then .error ⟨frame.missingComma, c :: rest, 1⟩
      else .ok (frame :: outer, c :: rest)

/-- Skips the key of an entry and its colon. -/
def skipKey (cs : List Char) : Except Stop (List Char) :=
  match skipSpace cs with
  | [] => .error ⟨.endInObject, [], 0⟩
  | c :: rest =>
    if c == '"' then
      match skipString rest with
      | .error stop => .error stop
      | .ok rest =>
        match skipSpace rest with
        | [] => .error ⟨.endInObject, [], 0⟩
        | c :: rest => if c == ':' then .ok rest else .error ⟨.expectedColon, c :: rest, 1⟩
    else .error ⟨.keyNotString, c :: rest, 1⟩

/-- Skips one value and all that closes its frames.  `fuel` bounds the number of
values that start. -/
def skipFrom : (fuel : Nat) → List Frame → List Char → Except Stop (List Char)
  | 0, _, _ => .error ⟨.endInValue, [], 0⟩
  | fuel + 1, frames, cs => do
    let cs ← if frames.head? = some .object then skipKey cs else .ok cs
    let (opened, cs) ← skipStart cs
    let (frames, cs) ← skipEnd opened.isNone (opened.toList ++ frames) cs
    if frames.isEmpty then .ok cs else skipFrom fuel frames cs

/-- Skips one value.  Each value that starts takes at least one character. -/
def skipValue (cs : List Char) : Except Stop (List Char) :=
  skipFrom (cs.length + 1) [] cs

end ResourceFaults.Json
