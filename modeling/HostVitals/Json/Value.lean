import HostVitals.Number.Shortest

/-!
# JSON values

The tree of a JSON document.  A number keeps the digits it is written with, since what it stands
for depends on the kind of number that is asked for.  A text is missing when its spelling stands
for no Unicode text; such a text may stand wherever nobody reads it.
-/

namespace HostVitals.Json

open HostVitals.Number

/-! ## Numbers -/

/-- The exponent of a number: its sign and its digits. -/
structure Exponent where
  /-- Whether the exponent is below zero. -/
  negative : Bool
  /-- The digits, at least one. -/
  digits : List Char
  deriving DecidableEq

/-- A number as it is written. -/
structure Numeral where
  /-- Whether a minus sign stands in front. -/
  negative : Bool
  /-- The digits before the point, without a zero in front of others. -/
  whole : List Char
  /-- The digits after the point, none when there is no point. -/
  fraction : List Char
  exponent : Option Exponent
  deriving DecidableEq

/-- A JSON value. -/
inductive Value where
  | null
  | bool (b : Bool)
  | number (n : Numeral)
  /-- A text, missing when it is not Unicode. -/
  | text (t : Option String)
  | array (items : List Value)
  /-- Named members, in the order in which they are written. -/
  | object (members : List (Option String × Value))

namespace Numeral

/-- A whole number. -/
def ofNat (n : Nat) : Numeral where
  negative := false
  whole := natDigits n
  fraction := []
  exponent := none

/-- The whole number that a numeral of digits alone stands for. -/
def toNat? (n : Numeral) : Option Nat :=
  if n.negative || !n.fraction.isEmpty || n.exponent.isSome then none
  else some (digitsValue n.whole)

/-! ## Writing numbers of binary64 -/

/-- The smallest decimal exponent of numbers that are written without an exponent. -/
def leastPositional : Int := -5

/-- The decimal exponent from which on numbers are written with an exponent. -/
def firstExponential : Int := 16

/-- The number with the digits `digits`, the first of which counts `10 ^ highest`.  Numbers of
middling size are written without an exponent and keep a digit after the point. -/
def ofDigits (negative : Bool) (digits : List Char) (highest : Int) : Numeral :=
  if 0 ≤ highest && highest < firstExponential then
    let places := highest.toNat + 1
    let whole := digits.take places ++ List.replicate (places - digits.length) '0'
    let fraction := digits.drop places
    { negative, whole, fraction := if fraction.isEmpty then ['0'] else fraction, exponent := none }
  else if leastPositional ≤ highest && highest < 0 then
    let zeros := List.replicate (-highest - 1).toNat '0'
    { negative, whole := ['0'], fraction := zeros ++ digits, exponent := none }
  else
    { negative, whole := digits.take 1, fraction := digits.drop 1,
      exponent := some ⟨decide (highest < 0), natDigits highest.natAbs⟩ }

/-- The shortest number that reads back as a finite one of binary64. -/
def ofBinary64? : Binary64 → Option Numeral
  | .nan => none
  | .signed negative rank =>
    if rank = Rank.infinity then none
    else if rank = Rank.zero then
      some { negative, whole := ['0'], fraction := ['0'], exponent := none }
    else
      let digits := shortest rank
      let written := natDigits digits.digits
      some (ofDigits negative written (digits.exponent + written.length - 1))

/-! ## Reading numbers of binary64 -/

/-- The limit of significands, two to the power of 64. -/
def significandLimit : Nat := 0x10000000000000000

/-- Digits are taken into a significand as long as it stays below its limit; the
second part counts the digits from the first that would not fit. -/
def absorb (significand : Nat) : List Char → Nat × Nat
  | [] => (significand, 0)
  | c :: cs =>
    let next := significand * 10 + digitValue c
    if next < significandLimit then absorb next cs else (significand, cs.length + 1)

/-- The greatest exponent of a power of ten that is used as one factor. -/
def greatestPower : Nat := 308

/-- The power of ten as a number of the format. -/
def tenTo (exponent : Nat) : Binary64 :=
  Decimal.toBinary64 { negative := false, digits := 1, exponent }

/-- The positive number `x * 10 ^ exponent`, rounded once for the factor.  There is none when the
result would be infinite.  Powers below the range are divided off in several steps. -/
def scale : Nat → Binary64 → Int → Option Binary64
  | 0, x, _ => some x
  | fuel + 1, x, exponent =>
    if exponent.natAbs ≤ greatestPower then
      if 0 ≤ exponent then
        let product := x.mul (tenTo exponent.natAbs)
        if product = .infinite false then none else some product
      else some (x.div (tenTo exponent.natAbs))
    else if x = .zero then some x
    else if 0 ≤ exponent then none
    else scale fuel (x.div (tenTo greatestPower)) (exponent + greatestPower)

/-- The value of an exponent. -/
def Exponent.toInt (e : Exponent) : Int :=
  if e.negative then -(digitsValue e.digits : Int) else digitsValue e.digits

/-- The number of binary64 that a numeral is read as: the digits that fit in 64 bits are rounded
to the format and then scaled by a power of ten.  There is none when the number is too great. -/
def toBinary64? (n : Numeral) : Option Binary64 :=
  let (significand, unusedWhole) := absorb 0 n.whole
  let (significand, unusedFraction) := absorb significand n.fraction
  let usedFraction : Int := (n.fraction.length : Int) - unusedFraction
  let exponent : Int := unusedWhole - usedFraction + ((n.exponent.map Exponent.toInt).getD 0)
  let magnitude := scale (exponent.natAbs + 1) (.ofInt significand) exponent
  magnitude.map (fun x => if n.negative then x.neg else x)

end Numeral

end HostVitals.Json
