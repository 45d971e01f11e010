import ResourceFaults.Word

/-!
# Whole numbers in decimal

Writing a whole number and reading one back.  Reading allows one sign in front
of at least one ASCII digit and stops at the first fault, so that a number with
both a stray character and too many digits is faulted for whichever comes first.
-/

namespace ResourceFaults.Decimal

/-- Why a text is not a whole number of the wanted range. -/
inductive NumberFault where
  | empty
  | invalidDigit
  | tooLarge
  | tooSmall
  deriving DecidableEq, Repr

/-- The wording of a fault. -/
def NumberFault.message : NumberFault → String
  | empty => "cannot parse integer from empty string"
  | invalidDigit => "invalid digit found in string"
  | tooLarge => "number too large to fit in target type"
  | tooSmall => "number too small to fit in target type"

/-- The character of a digit. -/
def digitChar (d : Nat) : Char :=
  Char.ofNat (48 + d % 10)

/-- The value of an ASCII digit. -/
def digit? (c : Char) : Option Nat :=
  if 48 ≤ c.toNat ∧ c.toNat ≤ 57 then some (c.toNat - 48) else none

/-- A power of ten. -/
def tenTo (n : Nat) : Nat :=
  Nat.pow 10 n

/-- A number in decimal, without leading zeros. -/
def digits (n : Nat) : List Char :=
  if n < 10 then [digitChar n] else digits (n / 10) ++ [digitChar (n % 10)]

/-- An integer in decimal, a minus sign in front of a negative one. -/
def signedDigits (i : Int) : List Char :=
  if i < 0 then '-' :: digits i.natAbs else digits i.natAbs

/-- Continues `value` by digits, and faults the first one that leaves the
range. -/
def readDigits (limit : Nat) (beyond : NumberFault) :
    (value : Nat) → List Char → Except NumberFault Nat
  | value, [] => .ok value
  | value, c :: cs =>
    match digit? c with
    | none => .error .invalidDigit
    | some d =>
      if limit < value * 10 + d then .error beyond
      else readDigits limit beyond (value * 10 + d) cs

/-- Digits after a sign, of which there must be one at least. -/
def readMagnitude (limit : Nat) (beyond : NumberFault) (cs : List Char) :
    Except NumberFault Nat :=
  if cs.isEmpty then .error .invalidDigit else readDigits limit beyond 0 cs

/-- A number from `0` to `limit`, with an optional plus sign. -/
def readNatural (limit : Nat) : List Char → Except NumberFault Nat
  | [] => .error .empty
  | '+' :: cs => readMagnitude limit .tooLarge cs
  | cs => readMagnitude limit .tooLarge cs

/-- A number from `-(limit + 1)` to `limit`, with an optional sign. -/
def readInteger (limit : Nat) : List Char → Except NumberFault Int
  | [] => .error .empty
  | '-' :: cs => (readMagnitude (limit + 1) .tooSmall cs).map fun n => -(n : Int)
  | '+' :: cs => (readMagnitude limit .tooLarge cs).map fun n => (n : Int)
  | cs => (readMagnitude limit .tooLarge cs).map fun n => (n : Int)

/-- A number of 64 bits. -/
def readWord (cs : List Char) : Except NumberFault Nat :=
  readNatural maxWord cs

end ResourceFaults.Decimal
