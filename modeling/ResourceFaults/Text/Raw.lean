/-!
# Text that may be broken

Command-line words and standard input arrive as bytes, and the bytes need not
be UTF-8.  `RawText` keeps them readable anyway: it is a list of units, and a
unit is a character or one byte that belongs to no well-formed sequence.

* `RawText.ofBytes` reads bytes; `RawText.ofString` embeds a string.
* `RawText.text?` gives the characters back when no byte is broken.
* `RawText.shown` is what a reader sees: each maximal broken piece becomes one
  replacement character.

With characters and broken bytes as separate units, a word can be cut at a
character without deciding first whether the whole word is text.
-/

namespace ResourceFaults.Text

/-- A character, or a byte that belongs to no well-formed sequence. -/
inductive RawChar where
  | char (c : Char)
  | byte (b : UInt8)
  deriving DecidableEq, Repr, Inhabited

/-- Text as it arrives from outside. -/
abbrev RawText := List RawChar

/-- What a lead byte promises: how many bytes follow, the range of the first of
them, and the bits the lead byte itself carries. -/
structure Lead where
  owed : Nat
  low : UInt8
  high : UInt8
  bits : Nat

/-- The promise of a lead byte above ASCII; `none` where no sequence starts. -/
def Lead.of? (b : UInt8) : Option Lead :=
  if b < 0xC2 then none
  else if b < 0xE0 then some ⟨1, 0x80, 0xBF, b.toNat % 0x20⟩
  else if b == 0xE0 then some ⟨2, 0xA0, 0xBF, 0⟩
  else if b == 0xED then some ⟨2, 0x80, 0x9F, 0xD⟩
  else if b < 0xF0 then some ⟨2, 0x80, 0xBF, b.toNat % 0x10⟩
  else if b == 0xF0 then some ⟨3, 0x90, 0xBF, 0⟩
  else if b < 0xF4 then some ⟨3, 0x80, 0xBF, b.toNat % 0x08⟩
  else if b == 0xF4 then some ⟨3, 0x80, 0x8F, 4⟩
  else none

/-- Reads the bytes that a lead byte promised.  The answer is the number of
bytes that kept the promise, and the code point if all of them did. -/
def Lead.follow : (owed : Nat) → (low high : UInt8) → (value : Nat) →
    List UInt8 → Nat × Option Nat
  | 0, _, _, value, _ => (0, some value)
  | _ + 1, _, _, _, [] => (0, none)
  | owed + 1, low, high, value, b :: rest =>
    if low ≤ b && b ≤ high then
      let (taken, code) := Lead.follow owed 0x80 0xBF (value * 0x40 + b.toNat % 0x40) rest
      (taken + 1, code)
    else (0, none)

/-- The piece at the front of `b :: rest`: how many bytes of `rest` belong to
it, and its character if it is well formed. -/
def piece (b : UInt8) (rest : List UInt8) : Nat × Option Char :=
  if b < 0x80 then (0, some (Char.ofNat b.toNat))
  else
    match Lead.of? b with
    | none => (0, none)
    | some lead =>
      let (taken, code) := Lead.follow lead.owed lead.low lead.high lead.bits rest
      (taken, code.map Char.ofNat)

namespace RawText

/-- A string, every unit of which is a character. -/
def ofString (s : String) : RawText :=
  s.toList.map .char

/-- Reads bytes: a well-formed sequence is its character, any other byte stays
a byte. -/
def ofBytes : List UInt8 → RawText
  | [] => []
  | b :: rest =>
    match piece b rest with
    | (taken, some c) => .char c :: ofBytes (rest.drop taken)
    | (_, none) => .byte b :: ofBytes rest
termination_by bytes => bytes.length
decreasing_by all_goals simp only [List.length_drop, List.length_cons]; omega

/-- The characters, if no byte is broken. -/
def chars? : RawText → Option (List Char)
  | [] => some []
  | .char c :: rest => (chars? rest).map (c :: ·)
  | .byte _ :: _ => none

/-- The text, if no byte is broken. -/
def text? (t : RawText) : Option String :=
  (chars? t).map String.ofList

/-- The broken bytes at the front. -/
def leadingBytes : RawText → List UInt8
  | .byte b :: rest => b :: leadingBytes rest
  | _ => []

/-- The characters a reader sees: a maximal broken piece is shown as one
replacement character. -/
def shownChars : RawText → List Char
  | [] => []
  | .char c :: rest => c :: shownChars rest
  | .byte b :: rest =>
    '\uFFFD' :: shownChars (rest.drop (piece b (leadingBytes rest)).1)
termination_by t => t.length
decreasing_by all_goals simp only [List.length_drop, List.length_cons]; omega

/-- The text a reader sees. -/
def shown (t : RawText) : String :=
  String.ofList (shownChars t)

/-- The part before the first `=`, and the part after it if there is one. -/
def cutAtEquals : RawText → RawText × Option RawText
  | [] => ([], none)
  | .char '=' :: rest => ([], some rest)
  | u :: rest =>
    let (before, after) := cutAtEquals rest
    (u :: before, after)

theorem chars?_map_char (cs : List Char) : chars? (cs.map .char) = some cs := by
  induction cs with
  | nil => rfl
  | cons c cs ih => simp [chars?, ih]

theorem text?_ofString (s : String) : text? (ofString s) = some s := by
  simp [text?, ofString, chars?_map_char]

end RawText

end ResourceFaults.Text
