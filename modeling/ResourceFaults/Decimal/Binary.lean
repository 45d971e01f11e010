import ResourceFaults.Word

/-!
# The exact value of a binary floating-point number

A finite number of double precision is `± m · 2 ^ q` with a mantissa `m` below
`2 ^ 53`.  Every text of such a number is computed from `m` and `q` in exact
arithmetic on natural numbers.
-/

namespace ResourceFaults.Decimal

/-- What a bit pattern of double precision stands for. -/
inductive Binary where
  | nan
  | infinite (negative : Bool)
  | finite (negative : Bool) (mantissa : Nat) (exponent : Int)
  deriving DecidableEq, Repr

namespace Binary

/-- Reads sign, exponent and fraction off 64 bits. -/
def ofBits (bits : UInt64) : Binary :=
  let n := bits.toNat
  let negative := n / span 63 == 1
  let exponent : Nat := n / span 52 % span 11
  let fraction : Nat := n % span 52
  if exponent == 2047 then
    if fraction == 0 then infinite negative else nan
  else if exponent == 0 then finite negative fraction (-1074)
  else finite negative (span 52 + fraction) ((exponent : Int) - 1075)

/-- The value of a number of double precision. -/
def ofFloat (x : Float) : Binary :=
  ofBits x.toBits

end Binary

/-- `num / den` rounded to the nearest whole number, a half to the even one. -/
def roundHalfEven (num den : Nat) : Nat :=
  let quotient := num / den
  let rest := num % den
  if 2 * rest < den then quotient
  else if den < 2 * rest then quotient + 1
  else if quotient % 2 == 0 then quotient else quotient + 1

end ResourceFaults.Decimal
