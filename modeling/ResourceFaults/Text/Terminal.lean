/-!
# Text for a plain terminal

Messages quote what the user wrote, and what the user wrote may hold terminal
control sequences.  `plain` keeps the characters that print and the blanks of a
line of text, and drops control characters and whole control sequences: an
escape character and what belongs to it.

An escape character starts a sequence in every mode, and a cancel or substitute
character ends every sequence.  The rest depends on the sequence:

* An escape with intermediates (`ESC (`) and a control sequence (`ESC [`) end at
  their final character.  A blank of a text line ends them too, and prints.
* A device control string (`ESC P`) has a head like that of a control sequence,
  and then its data.  A head that is out of order counts as data.
* Data, and the other strings (`ESC X`, `ESC ^`, `ESC _`), end at the string
  terminator.  That is the byte `9C`, wherever it stands in the encoding of a
  character; the character is lost with it.
* An operating-system command (`ESC ]`) ends at a bell.

A character outside ASCII prints only where no sequence is open.  Inside of one
it is dropped, and, the terminator apart, the sequence goes on.

`streamed` is the same for text on its way to a stream.  A stream does not forget
a sequence that a blank broke into: what follows the blank prints up to the next
control character, and there the sequence goes on.
-/

namespace ResourceFaults.Text

/-- Where the machine stands between two characters. -/
inductive TerminalMode where
  | ground
  | escaped
  | intermediate
  | parameters
  | deviceStart
  | deviceParameters
  | deviceIntermediate
  | data
  | command
  deriving DecidableEq, Repr

/-- Tab, line feed, form feed and carriage return: the control characters that
belong to plain text. -/
def isTextBlank (c : Char) : Bool :=
  c == '\t' || c == '\n' || c == '\x0c' || c == '\r'

/-- Whether the string terminator is among the bytes of a character. -/
def holdsTerminator (c : Char) : Bool :=
  (String.utf8EncodeChar c).contains 0x9C

namespace TerminalMode

/-- A character outside ASCII: the next mode, and whether the character
prints. -/
def stepWide (mode : TerminalMode) (c : Char) : TerminalMode × Bool :=
  match mode with
  | ground => (ground, true)
  | data => (if holdsTerminator c then ground else data, false)
  | mode => (mode, false)

/-- What follows an escape character, if it is no control character. -/
def ofEscape (c : Char) : TerminalMode :=
  if c.toNat < 0x30 then intermediate
  else
    match c with
    | '[' => parameters
    | ']' => command
    | 'P' => deviceStart
    | 'X' | '^' | '_' => data
    | _ => ground

/-- One character: the next mode, and whether the character prints. -/
def step (mode : TerminalMode) (c : Char) : TerminalMode × Bool :=
  let n := c.toNat
  if n == 0x1b then (escaped, false)
  else if n == 0x18 || n == 0x1a then (ground, false)
  else if 0x80 ≤ n then mode.stepWide c
  else
    let isControl := n < 0x20 || n == 0x7f
    match mode with
    | ground => (ground, isTextBlank c || !isControl)
    | escaped =>
      if isTextBlank c then (ground, true)
      else (if isControl then escaped else ofEscape c, false)
    | intermediate =>
      if isTextBlank c then (ground, true)
      else (if isControl || n < 0x30 then intermediate else ground, false)
    | parameters =>
      if isTextBlank c then (ground, true)
      else (if isControl || n < 0x40 then parameters else ground, false)
    | deviceStart =>
      (if isControl then deviceStart
        else if n < 0x30 then deviceIntermediate
        else if n < 0x40 then deviceParameters
        else data, false)
    | deviceParameters =>
      (if isControl then deviceParameters
        else if n < 0x30 then deviceIntermediate
        else if n < 0x3c then deviceParameters
        else data, false)
    | deviceIntermediate =>
      (if isControl || n < 0x30 then deviceIntermediate else data, false)
    | data => (data, false)
    | command => (if n == 0x07 then ground else command, false)

end TerminalMode

/-- The characters that print, from a given mode on. -/
def plainFrom (mode : TerminalMode) : List Char → List Char
  | [] => []
  | c :: cs =>
    let (next, prints) := mode.step c
    if prints then c :: plainFrom next cs else plainFrom next cs

/-- A text without control characters and control sequences. -/
def plain (s : String) : String :=
  String.ofList (plainFrom .ground s.toList)

/-- Whether a character prints where no sequence is open. -/
def printsAlone (c : Char) : Bool :=
  (TerminalMode.ground.step c).2

/-- The characters that a stream prints, from a given mode on.  `running` says
whether the character before printed; if so, the mode is that of a sequence which
a blank has broken into, and printing ends the sequence only outside ASCII. -/
def streamedFrom (mode : TerminalMode) (running : Bool) : List Char → List Char
  | [] => []
  | c :: cs =>
    if running && printsAlone c then
      c :: streamedFrom (if 0x80 ≤ c.toNat then .ground else mode) true cs
    else
      let (next, prints) := mode.step c
      if prints then c :: streamedFrom (if isTextBlank c then mode else next) true cs
      else streamedFrom next false cs

/-- What a stream to a plain terminal prints of a text. -/
def streamed (s : String) : String :=
  String.ofList (streamedFrom .ground false s.toList)

end ResourceFaults.Text
