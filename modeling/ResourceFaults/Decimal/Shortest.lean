import ResourceFaults.Decimal.Binary
import ResourceFaults.Decimal.Whole

/-!
# The shortest decimal that reads back

Among the decimals that round to a given binary number, `shortest` finds one with
the fewest digits, and of those the nearest to the number.  The search goes
through the grids of one, two, … seventeen significant digits.  If any point of a
grid rounds to the number, one of the two grid points around the number does, so
testing these two is enough; seventeen digits always succeed.
-/

namespace ResourceFaults.Decimal

/-- The numbers that round to `m · 2 ^ q`, over one denominator: the number
itself, how far down and how far up the others reach, and whether the ends
belong to them. -/
structure RoundingInterval where
  num : Nat
  den : Nat
  below : Nat
  above : Nat
  closed : Bool

/-- The interval around `m · 2 ^ q`.  Right above a power of two the gap below is
half the gap above. -/
def RoundingInterval.around (m : Nat) (q : Int) : RoundingInterval :=
  let unit := span q.toNat
  { num := 4 * m * unit
    den := 4 * span (-q).toNat
    below := if m == span 52 && q > -1074 then unit else 2 * unit
    above := 2 * unit
    closed := m % 2 == 0 }

/-- Both sides of a comparison with `c · 10 ^ u`, cleared of denominators: the
decimal, and the factor for a numerator over `den`. -/
def RoundingInterval.cleared (r : RoundingInterval) (c : Nat) (u : Int) : Nat × Nat :=
  (c * r.den * tenTo u.toNat, tenTo (-u).toNat)

/-- Whether `c · 10 ^ u` rounds to the number. -/
def RoundingInterval.contains (r : RoundingInterval) (c : Nat) (u : Int) : Bool :=
  let (decimal, factor) := r.cleared c u
  let low := (r.num - r.below) * factor
  let high := (r.num + r.above) * factor
  if r.closed then low ≤ decimal && decimal ≤ high else low < decimal && decimal < high

/-- The exponent of the leading decimal digit of a positive `num / den`. -/
def leadingExponent (num den : Nat) : Int :=
  let guess : Int := ((digits num).length : Int) - (digits den).length
  if num * tenTo (-guess).toNat < den * tenTo guess.toNat then guess - 1 else guess

/-- The point of the grid `10 ^ u` that rounds to the number, the nearer one if
both neighbours do, the even one if they are equally near. -/
def RoundingInterval.onGrid (r : RoundingInterval) (u : Int) : Option (Nat × Int) :=
  let scaledNum := r.num * tenTo (-u).toNat
  let scaledDen := r.den * tenTo u.toNat
  let floor := scaledNum / scaledDen
  match r.contains floor u, r.contains (floor + 1) u with
  | true, true => some (roundHalfEven scaledNum scaledDen, u)
  | true, false => some (floor, u)
  | false, true => some (floor + 1, u)
  | false, false => none

/-- Takes zeros off the end of a decimal. -/
def withoutTrailingZeros : (fuel : Nat) → Nat → Int → Nat × Int
  | 0, c, u => (c, u)
  | fuel + 1, c, u =>
    if c % 10 == 0 && c != 0 then withoutTrailingZeros fuel (c / 10) (u + 1) else (c, u)

/-- A shortest decimal `c · 10 ^ u` that rounds to a positive `m · 2 ^ q`. -/
def shortest (m : Nat) (q : Int) : Nat × Int :=
  let r := RoundingInterval.around m q
  let lead := leadingExponent r.num r.den
  match (List.range 17).findSome? fun (k : Nat) => r.onGrid (lead - k) with
  | some (c, u) => withoutTrailingZeros 17 c u
  | none => (0, 0)

/-- How a number is laid out: positional from `10 ^ lowest` to below
`10 ^ beyond`, with an exponent outside. -/
structure Layout where
  lowest : Int
  beyond : Int

/-- A positive decimal with digits `ds`, the last of them worth `10 ^ u`.  A
positional form has at least one digit after the point, and an exponent always
has its sign. -/
def Layout.write (layout : Layout) (ds : List Char) (u : Int) : List Char :=
  let lead := u + ds.length - 1
  if layout.lowest ≤ lead && lead < layout.beyond then
    if 0 ≤ u then ds ++ List.replicate u.toNat '0' ++ ['.', '0']
    else if 0 ≤ lead then ds.take (lead.toNat + 1) ++ '.' :: ds.drop (lead.toNat + 1)
    else ['0', '.'] ++ List.replicate (-lead - 1).toNat '0' ++ ds
  else
    let fraction := match ds.drop 1 with
      | [] => []
      | rest => '.' :: rest
    let exponent := if lead < 0 then '-' :: digits lead.natAbs else '+' :: digits lead.natAbs
    ds.take 1 ++ fraction ++ 'e' :: exponent

/-- A finite number by its shortest decimal; `none` for the others. -/
def Layout.float? (layout : Layout) (x : Float) : Option (List Char) :=
  match Binary.ofFloat x with
  | .finite negative m q =>
    let body :=
      if m == 0 then ['0', '.', '0']
      else
        let (c, u) := shortest m q
        layout.write (digits c) u
    some (if negative then '-' :: body else body)
  | _ => none

end ResourceFaults.Decimal
