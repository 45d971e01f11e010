import ResourceFaults.Decimal.Binary
import ResourceFaults.Decimal.Whole

/-!
# One decimal place

A number of double precision with exactly one digit after the point.  The exact
binary value is rounded, and a value half-way between two tenths goes to the even
one.  A negative number keeps its sign even when it rounds to zero.
-/

namespace ResourceFaults.Decimal

/-- `m · 2 ^ q` in tenths. -/
def tenths (m : Nat) (q : Int) : Nat :=
  roundHalfEven (10 * m * span q.toNat) (span (-q).toNat)

/-- A number with one digit after the point. -/
def onePlace (x : Float) : String :=
  let sign (negative : Bool) (s : String) := if negative then "-" ++ s else s
  match Binary.ofFloat x with
  | .nan => "NaN"
  | .infinite negative => sign negative "inf"
  | .finite negative m q =>
    let t := tenths m q
    sign negative (String.ofList (digits (t / 10) ++ ['.', digitChar t]))

end ResourceFaults.Decimal
