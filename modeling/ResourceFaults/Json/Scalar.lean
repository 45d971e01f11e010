import ResourceFaults.Json.Error

/-!
# Scalars of a JSON text

Readers for the parts of a text that hold no other values: blanks, the words
`null`, `true` and `false`, strings and numbers.  A reader takes the characters
that are left and answers with what it read and what is left after it.

`mismatch` says what stands where something else was expected.  A scalar is read
to its end for that, so a scalar that is broken is faulted for what breaks it.
-/

namespace ResourceFaults.Json

open Decimal (digit?)

/-- The blanks between the parts of a text. -/
def isSpace (c : Char) : Bool :=
  c == ' ' || c == '\n' || c == '\t' || c == '\r'

/-- Without the blanks at the front. -/
def skipSpace (cs : List Char) : List Char :=
  cs.dropWhile isSpace

/-- Whether a digit stands at the front. -/
def startsWithDigit : List Char → Bool
  | c :: _ => (digit? c).isSome
  | [] => false

/-- Without the digits at the front. -/
def skipDigits (cs : List Char) : List Char :=
  cs.dropWhile fun c => (digit? c).isSome

/-- The rest of a word whose first letter has been seen. -/
def readWordRest : (expected : List Char) → List Char → Except Stop (List Char)
  | [], cs => .ok cs
  | _ :: _, [] => .error ⟨.endInValue, [], 0⟩
  | e :: es, c :: cs =>
    if c == e then readWordRest es cs else .error ⟨.expectedIdent, c :: cs, 1⟩

/-! ## Strings -/

/-- The value of a hexadecimal digit of either case. -/
def hexValue? (c : Char) : Option Nat :=
  let n := c.toNat
  if 48 ≤ n ∧ n ≤ 57 then some (n - 48)
  else if 65 ≤ n ∧ n ≤ 70 then some (n - 55)
  else if 97 ≤ n ∧ n ≤ 102 then some (n - 87)
  else none

/-- The size of a text in bytes. -/
def byteCount (cs : List Char) : Nat :=
  cs.foldl (fun n c => n + c.utf8Size) 0

/-- Four hexadecimal digits.  Fewer than four bytes left mean that the string
has no end. -/
def readFour (cs : List Char) : Except Stop (Nat × List Char) :=
  let broken : Stop := if byteCount cs < 4 then ⟨.endInString, [], 0⟩ else ⟨.invalidEscape, cs, 4⟩
  match cs with
  | a :: b :: c :: d :: rest =>
    match hexValue? a, hexValue? b, hexValue? c, hexValue? d with
    | some x, some y, some z, some w => .ok (((x * 16 + y) * 16 + z) * 16 + w, rest)
    | _, _, _, _ => .error broken
  | _ => .error broken

/-- The first halves of characters beyond sixteen bits. -/
def isHighSurrogate (n : Nat) : Bool :=
  0xD800 ≤ n && n < 0xDC00

/-- The second halves of characters beyond sixteen bits. -/
def isLowSurrogate (n : Nat) : Bool :=
  0xDC00 ≤ n && n < 0xE000

/-- The character of a pair of halves. -/
def surrogatePair (high low : Nat) : Char :=
  Char.ofNat (0x10000 + (high - 0xD800) * 0x400 + (low - 0xDC00))

/-- The second half of a character, as an escape of its own. -/
def readLowSurrogate : List Char → Except Stop (Nat × List Char)
  | [] => .error ⟨.endInString, [], 0⟩
  | ['\\'] => .error ⟨.endInString, [], 0⟩
  | '\\' :: 'u' :: cs => do
    let (low, rest) ← readFour cs
    if isLowSurrogate low then .ok (low, rest) else .error ⟨.loneSurrogate, rest, 0⟩
  | '\\' :: cs => .error ⟨.brokenSurrogate, cs, 1⟩
  | cs => .error ⟨.brokenSurrogate, cs, 1⟩

/-- An escape of four digits, or two of them for one character. -/
def readCodePoint (cs : List Char) : Except Stop (Char × List Char) := do
  let (n, rest) ← readFour cs
  if isLowSurrogate n then .error ⟨.loneSurrogate, rest, 0⟩
  else if isHighSurrogate n then
    let (low, rest) ← readLowSurrogate rest
    .ok (surrogatePair n low, rest)
  else .ok (Char.ofNat n, rest)

/-- What a letter after a backslash stands for, if it takes no digits. -/
def shortEscape? : Char → Option Char
  | '"' => some '"'
  | '\\' => some '\\'
  | '/' => some '/'
  | 'b' => some '\x08'
  | 'f' => some '\x0c'
  | 'n' => some '\n'
  | 'r' => some '\r'
  | 't' => some '\t'
  | _ => none

/-- The character of an escape, after the backslash. -/
def readEscape : List Char → Except Stop (Char × List Char)
  | [] => .error ⟨.endInString, [], 0⟩
  | c :: cs =>
    match shortEscape? c with
    | some e => .ok (e, cs)
    | none => if c == 'u' then readCodePoint cs else .error ⟨.invalidEscape, c :: cs, 1⟩

/-- The rest of an escape in a string that is skipped: the digits must be
digits, but need not make a character. -/
def skipEscape : List Char → Except Stop (List Char)
  | [] => .error ⟨.endInString, [], 0⟩
  | c :: cs =>
    if (shortEscape? c).isSome then .ok cs
    else if c == 'u' then (readFour cs).map (·.2)
    else .error ⟨.invalidEscape, c :: cs, 1⟩

theorem length_readFour {cs rest : List Char} {n : Nat} (h : readFour cs = .ok (n, rest)) :
    rest.length < cs.length := by
  simp only [readFour] at h
  split at h
  · split at h
    · simp only [Except.ok.injEq, Prod.mk.injEq] at h
      obtain ⟨_, rfl⟩ := h
      simp only [List.length_cons]; omega
    · exact absurd h (by simp)
  · exact absurd h (by simp)

theorem length_readLowSurrogate {cs rest : List Char} {n : Nat}
    (h : readLowSurrogate cs = .ok (n, rest)) : rest.length < cs.length := by
  unfold readLowSurrogate at h
  split at h
  · exact absurd h (by simp)
  · exact absurd h (by simp)
  · rename_i cs
    cases hf : readFour cs with
    | error e => simp [hf, bind, Except.bind] at h
    | ok r =>
      obtain ⟨low, rest'⟩ := r
      have := length_readFour hf
      simp only [hf, bind, Except.bind] at h
      split at h
      · simp only [Except.ok.injEq, Prod.mk.injEq] at h
        obtain ⟨_, rfl⟩ := h
        simp only [List.length_cons]; omega
      · exact absurd h (by simp)
  · exact absurd h (by simp)
  · exact absurd h (by simp)

theorem length_readCodePoint {cs rest : List Char} {c : Char}
    (h : readCodePoint cs = .ok (c, rest)) : rest.length < cs.length := by
  unfold readCodePoint at h
  cases hf : readFour cs with
  | error e => simp [hf, bind, Except.bind] at h
  | ok r =>
    obtain ⟨n, rest₁⟩ := r
    have h₁ := length_readFour hf
    simp only [hf, bind, Except.bind] at h
    split at h
    · exact absurd h (by simp)
    · split at h
      · cases hl : readLowSurrogate rest₁ with
        | error e => simp [hl] at h
        | ok r =>
          obtain ⟨low, rest₂⟩ := r
          have h₂ := length_readLowSurrogate hl
          simp only [hl, Except.ok.injEq, Prod.mk.injEq] at h
          obtain ⟨_, rfl⟩ := h
          omega
      · simp only [Except.ok.injEq, Prod.mk.injEq] at h
        obtain ⟨_, rfl⟩ := h
        exact h₁

theorem length_readEscape {cs rest : List Char} {c : Char}
    (h : readEscape cs = .ok (c, rest)) : rest.length < cs.length := by
  unfold readEscape at h
  split at h
  · exact absurd h (by simp)
  · split at h
    · simp only [Except.ok.injEq, Prod.mk.injEq] at h
      obtain ⟨_, rfl⟩ := h
      simp
    · split at h
      · have := length_readCodePoint h
        simp only [List.length_cons]; omega
      · exact absurd h (by simp)

theorem length_skipEscape {cs rest : List Char} (h : skipEscape cs = .ok rest) :
    rest.length < cs.length := by
  unfold skipEscape at h
  split at h
  · exact absurd h (by simp)
  · rename_i c cs
    split at h
    · simp only [Except.ok.injEq] at h
      subst h
      simp
    · split at h
      · cases hf : readFour cs with
        | error e => simp [hf, Except.map] at h
        | ok r =>
          obtain ⟨n, rest'⟩ := r
          have := length_readFour hf
          simp only [hf, Except.map, Except.ok.injEq] at h
          subst h
          simp only [List.length_cons]; omega
      · exact absurd h (by simp)

/-- The characters of a string, after its opening quote. -/
def readString (cs : List Char) : Except Stop (List Char × List Char) :=
  match cs with
  | [] => .error ⟨.endInString, [], 0⟩
  | c :: cs =>
    if c == '"' then .ok ([], cs)
    else if c == '\\' then
      match _h : readEscape cs with
      | .error stop => .error stop
      | .ok (e, rest) => (readString rest).map fun (tail, rest) => (e :: tail, rest)
    else if c.toNat < 0x20 then .error ⟨.controlCharacter, c :: cs, 1⟩
    else (readString cs).map fun (tail, rest) => (c :: tail, rest)
termination_by cs.length
decreasing_by
  · have := length_readEscape _h
    simp only [List.length_cons]; omega
  · simp

/-- Skips a string, after its opening quote. -/
def skipString (cs : List Char) : Except Stop (List Char) :=
  match cs with
  | [] => .error ⟨.endInString, [], 0⟩
  | c :: cs =>
    if c == '"' then .ok cs
    else if c == '\\' then
      match _h : skipEscape cs with
      | .error stop => .error stop
      | .ok rest => skipString rest
    else if c.toNat < 0x20 then .error ⟨.controlCharacter, c :: cs, 0⟩
    else skipString cs
termination_by cs.length
decreasing_by
  · have := length_skipEscape _h
    simp only [List.length_cons]; omega
  · simp

/-! ## Numbers -/

/-- A number is whole if it has neither a fraction nor an exponent and fits 64
bits, and real otherwise. -/
inductive Number where
  | integer (i : Int)
  | real (x : Float)

/-- A power of ten as a number of double precision. -/
def powerOfTen (e : Nat) : Float :=
  Float.ofScientific 1 false e

/-- Divides by a power of ten, in steps that a number of double precision can
take. -/
def shrink (x : Float) (e : Nat) : Float :=
  if e ≤ 308 then x / powerOfTen e
  else if x == 0 then x
  else shrink (x / powerOfTen 308) (e - 308)
termination_by e

/-- `significand · 10 ^ e`; `none` if it is too large. -/
def scaled? (significand : Nat) (e : Int) : Option Float :=
  let x := significand.toUInt64.toFloat
  if e < 0 then some (shrink x e.natAbs)
  else if e ≤ 308 then
    let y := x * powerOfTen e.natAbs
    if y.isInf then none else some y
  else if x == 0 then some x
  else none

/-- A real number whose last digit has been read. -/
def finishReal (negative : Bool) (significand : Nat) (e : Int) (rest : List Char) :
    Except Stop (Number × List Char) :=
  match scaled? significand e with
  | some x => .ok (.real (if negative then -x else x), rest)
  | none => .error ⟨.numberOutOfRange, rest, 0⟩

/-- Continues a significand by digits, up to the first that 64 bits cannot
take. -/
def readSignificand : (value : Nat) → List Char → Nat × List Char
  | value, [] => (value, [])
  | value, c :: cs =>
    match digit? c with
    | none => (value, c :: cs)
    | some d =>
      if maxWord < value * 10 + d then (value, c :: cs)
      else readSignificand (value * 10 + d) cs

/-- Continues an exponent by digits; `none` after the first that 31 bits cannot
take. -/
def readExponentDigits : (value : Nat) → List Char → Option Nat × List Char
  | value, [] => (some value, [])
  | value, c :: cs =>
    match digit? c with
    | none => (some value, c :: cs)
    | some d =>
      if span 31 ≤ value * 10 + d then (none, cs)
      else readExponentDigits (value * 10 + d) cs

/-- The sign of an exponent, and what follows it. -/
def readExponentSign : List Char → Bool × List Char
  | '+' :: cs => (false, cs)
  | '-' :: cs => (true, cs)
  | cs => (false, cs)

/-- The exponent of a number, after its letter. -/
def readExponent (negative : Bool) (significand : Nat) (e : Int) (cs : List Char) :
    Except Stop (Number × List Char) :=
  let (down, cs) := readExponentSign cs
  if cs.isEmpty then .error ⟨.endInValue, [], 0⟩
  else if !startsWithDigit cs then .error ⟨.invalidNumber, cs, 1⟩
  else
    match readExponentDigits 0 cs with
    | (some n, rest) => finishReal negative significand (if down then e - n else e + n) rest
    | (none, rest) =>
      if significand != 0 && !down then .error ⟨.numberOutOfRange, rest, 0⟩
      else .ok (.real (if negative then -0.0 else 0.0), skipDigits rest)

/-- The end of a real number: its exponent, if there is one. -/
def readTail (negative : Bool) (significand : Nat) (e : Int) (cs : List Char) :
    Except Stop (Number × List Char) :=
  match cs with
  | 'e' :: rest | 'E' :: rest => readExponent negative significand e rest
  | _ => finishReal negative significand e cs

/-- The fraction of a number, after its point.  Digits that 64 bits cannot take
do not count. -/
def readFraction (negative : Bool) (significand : Nat) (e : Int) (cs : List Char) :
    Except Stop (Number × List Char) :=
  if cs.isEmpty then .error ⟨.endInValue, [], 0⟩
  else if !startsWithDigit cs then .error ⟨.invalidNumber, cs, 1⟩
  else
    let (value, rest) := readSignificand significand cs
    readTail negative value (e - ((cs.length - rest.length : Nat) : Int)) (skipDigits rest)

/-- A number that ends after its whole part.  What 64 bits cannot hold, and
minus zero, is real. -/
def wholeNumber (negative : Bool) (n : Nat) : Number :=
  if negative then
    if n == 0 || span 63 < n then .real (-n.toUInt64.toFloat) else .integer (-(n : Int))
  else .integer n

/-- What follows the whole part of a number. -/
def readAfterWhole (negative : Bool) (significand : Nat) (cs : List Char) :
    Except Stop (Number × List Char) :=
  if startsWithDigit cs then
    let rest := skipDigits cs
    let skipped := cs.length - rest.length
    match rest with
    | '.' :: rest => readFraction negative significand skipped rest
    | _ => readTail negative significand skipped rest
  else
    match cs with
    | '.' :: rest => readFraction negative significand 0 rest
    | 'e' :: rest | 'E' :: rest => readExponent negative significand 0 rest
    | _ => .ok (wholeNumber negative significand, cs)

/-- A number after its sign.  A zero in front stands alone. -/
def readUnsigned (negative : Bool) (cs : List Char) : Except Stop (Number × List Char) :=
  match cs with
  | [] => .error ⟨.endInValue, [], 0⟩
  | '0' :: rest =>
    if startsWithDigit rest then .error ⟨.invalidNumber, rest, 1⟩
    else readAfterWhole negative 0 rest
  | _ =>
    if startsWithDigit cs then
      let (significand, rest) := readSignificand 0 cs
      readAfterWhole negative significand rest
    else .error ⟨.invalidNumber, cs, 1⟩

/-- A number. -/
def readNumber : List Char → Except Stop (Number × List Char)
  | '-' :: cs => readUnsigned true cs
  | cs => readUnsigned false cs

/-! ## Something else -/

/-- The stop at a value that is not of the expected kind. -/
def mismatch (expected : String) (cs : List Char) : Stop :=
  let stop (found : Found) (rest : List Char) : Stop := ⟨.invalidType found expected, rest, 0⟩
  match cs with
  | [] => ⟨.expectedValue, [], 0⟩
  | c :: rest =>
    if c == 'n' then
      match readWordRest "ull".toList rest with
      | .ok rest => stop .null rest
      | .error s => s
    else if c == 't' then
      match readWordRest "rue".toList rest with
      | .ok rest => stop (.boolean true) rest
      | .error s => s
    else if c == 'f' then
      match readWordRest "alse".toList rest with
      | .ok rest => stop (.boolean false) rest
      | .error s => s
    else if c == '"' then
      match readString rest with
      | .ok (s, rest) => stop (.string (String.ofList s)) rest
      | .error s => s
    else if c == '-' || startsWithDigit cs then
      match readNumber cs with
      | .ok (.integer i, rest) => stop (.integer i) rest
      | .ok (.real x, rest) => stop (.real x) rest
      | .error s => s
    else if c == '[' then stop .list cs
    else if c == '\x7b' then stop .object cs
    else ⟨.expectedValue, cs, 1⟩

end ResourceFaults.Json
