import HostVitals.Number.Decimal

/-!
# The shortest decimal digits of a number

A positive finite number of the format is written with the fewest decimal digits that read back as
it, and among those with the digits nearest to it.  The decimal numbers that read back are those in
an interval whose ends lie half way to the neighbours; the ends belong to it when the rank is even.

For each count of digits the decimal grid has two points around the number, and the first count
for which one of them lies in the interval is the one to use.
-/

namespace HostVitals.Number

/-! ## The interval that reads back -/

/-- The decimal numbers that round to a magnitude, with their ends in halves of a unit. -/
structure Neighbourhood where
  lower : Nat
  /-- Twice the magnitude. -/
  centre : Nat
  upper : Nat
  /-- Whether the ends belong to the interval. -/
  closed : Bool

/-- The interval of a magnitude other than zero. -/
def neighbourhood (rank : Nat) : Neighbourhood where
  lower := unitsOfRank (rank - 1) + unitsOfRank rank
  centre := 2 * unitsOfRank rank
  upper := unitsOfRank rank + unitsOfRank (rank + 1)
  closed := rank % 2 == 0

/-- Whether `n / d` halves of a unit lie in the interval. -/
def Neighbourhood.holds (i : Neighbourhood) (n d : Nat) : Bool :=
  if i.closed then i.lower * d ≤ n && n ≤ i.upper * d
  else i.lower * d < n && n < i.upper * d

/-! ## The decimal exponent -/

/-- A fraction of whole numbers. -/
structure Ratio where
  /-- The part above the line. -/
  num : Nat
  /-- The part below the line. -/
  den : Nat

/-- The power of ten as a fraction. -/
def powerOfTen (exponent : Int) : Ratio :=
  if 0 ≤ exponent then ⟨Nat.pow 10 exponent.toNat, 1⟩ else ⟨1, Nat.pow 10 (-exponent).toNat⟩

/-- Whether a power of ten is at most the given number of units. -/
def powerFits (exponent : Int) (units : Nat) : Bool :=
  let power := powerOfTen exponent
  power.num * unitsPerOne ≤ units * power.den

/-- The exponent of the greatest power of ten that is at most the given number of units.  The
estimate from the binary exponent is off by one at most. -/
def decimalExponent (units : Nat) : Int :=
  let binaryExponent : Int := (units.log2 : Int) - 1074
  let estimate := Int.fdiv (binaryExponent * 30103) 100000
  if powerFits (estimate + 1) units then estimate + 1
  else if powerFits estimate units then estimate
  else estimate - 1

/-! ## Choosing the digits -/

/-- The number `digits * 10 ^ exponent`. -/
structure Scientific where
  digits : Nat
  /-- The power of ten that scales them. -/
  exponent : Int
  deriving DecidableEq

/-- The same number without zeros at the end of its digits. -/
def Scientific.normal : Nat → Scientific → Scientific
  | 0, x => x
  | fuel + 1, x =>
    if x.digits % 10 = 0 && x.digits ≠ 0 then
      normal fuel ⟨x.digits / 10, x.exponent + 1⟩
    else x

/-- The point of the grid of step `10 ^ exponent` nearest to the magnitude, of those that lie in
its interval. -/
def onGrid (i : Neighbourhood) (exponent : Int) : Option Scientific :=
  let power := powerOfTen exponent
  -- a grid point `k` lies at `k * step / scale` halves of a unit
  let step := 2 * power.num * unitsPerOne
  let scale := power.den
  let below := i.centre * scale / step
  let belowHolds := i.holds (below * step) scale
  let aboveHolds := i.holds ((below + 1) * step) scale
  let distanceBelow := i.centre * scale - below * step
  let distanceAbove := (below + 1) * step - i.centre * scale
  let preferBelow :=
    distanceBelow < distanceAbove || (distanceBelow == distanceAbove && below % 2 == 0)
  if belowHolds && (preferBelow || !aboveHolds) && below ≠ 0 then some ⟨below, exponent⟩
  else if aboveHolds then some ⟨below + 1, exponent⟩
  else none

/-- The first grid with a point in the interval, from `count` digits on. -/
def firstGrid (i : Neighbourhood) (highest : Int) : Nat → Nat → Option Scientific
  | 0, _ => none
  | fuel + 1, count =>
    match onGrid i (highest - count + 1) with
    | some x => some x
    | none => firstGrid i highest fuel (count + 1)

/-- The shortest decimal number that reads back as a positive finite magnitude.  Seventeen digits
always suffice. -/
def shortest (rank : Rank) : Scientific :=
  let i := neighbourhood rank.val
  match firstGrid i (decimalExponent rank.units) 17 1 with
  | some x => x.normal 20
  | none => ⟨0, 0⟩

end HostVitals.Number
