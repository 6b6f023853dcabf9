import HostVitals.Number.Binary64
import HostVitals.Number.Digits

/-!
# Decimal numbers read into binary64

A decimal number is a whole number of digits scaled by a power of ten.  It is read into the format
by one rounding of its exact value, however many digits and however large an exponent it has.
-/

namespace HostVitals.Number

/-! ## Decimal numbers -/

/-- The number `digits * 10 ^ exponent` with a sign. -/
structure Decimal where
  /-- Whether the number is below zero, or is a negative zero. -/
  negative : Bool
  digits : Nat
  /-- The power of ten that scales the digits. -/
  exponent : Int
  deriving DecidableEq

/-- The decimal exponent from which on every number with digits is out of range above. -/
def decimalCeiling : Int := 310

/-- The decimal exponent below which every number is nearer to zero than to the unit. -/
def decimalFloor : Int := -330

/-- The number of the format nearest to a decimal number.  The two limits only spare the work of
scaling by powers of ten that cannot matter. -/
def Decimal.toBinary64 (x : Decimal) : Binary64 :=
  if x.digits = 0 then .signed x.negative Rank.zero
  else
    let magnitude : Int := x.exponent + (natDigits x.digits).length
    if decimalCeiling < magnitude then .infinite x.negative
    else if magnitude < decimalFloor then .signed x.negative Rank.zero
    else if 0 ≤ x.exponent then
      .ofUnits x.negative (x.digits * Nat.pow 10 x.exponent.toNat * unitsPerOne) 1
    else .ofUnits x.negative (x.digits * unitsPerOne) (Nat.pow 10 (-x.exponent).toNat)

/-! ## Numbers as people write them -/

/-- The sign that a text starts with, if any, and what follows it. -/
def splitSign : List Char → Bool × List Char
  | '-' :: rest => (true, rest)
  | '+' :: rest => (false, rest)
  | cs => (false, cs)

/-- The exponent of a numeral: nothing, or a mark, a sign at most and digits. -/
def readExponent : List Char → Option Int
  | [] => some 0
  | mark :: rest =>
    if mark = 'e' || mark = 'E' then
      let (negative, digits) := splitSign rest
      (readDigits digits).map (fun n => if negative then -(n : Int) else n)
    else none

/-- A numeral without its sign: digits, a point and digits, with a digit on one side at least,
and an exponent. -/
def readNumeral (negative : Bool) (cs : List Char) : Option Binary64 :=
  let whole := cs.takeWhile isDigit
  let rest := cs.dropWhile isDigit
  let (fraction, rest) :=
    match rest with
    | '.' :: rest => (rest.takeWhile isDigit, rest.dropWhile isDigit)
    | _ => ([], rest)
  if whole.isEmpty && fraction.isEmpty then none
  else
    (readExponent rest).map (fun exponent =>
      Decimal.toBinary64
        { negative, digits := digitsValue (whole ++ fraction),
          exponent := exponent - fraction.length })

/-- The ASCII small letter of a capital; other characters stay. -/
def asciiSmall (c : Char) : Char :=
  if 'A' ≤ c && c ≤ 'Z' then Char.ofNat (c.toNat + 32) else c

/-- A number: a sign at most, and then a numeral or one of the words for infinity and for what is
not a number, in any mixture of capitals and small letters. -/
def readNumber (cs : List Char) : Option Binary64 :=
  let (negative, rest) := splitSign cs
  let word := rest.map asciiSmall
  if word = "nan".toList then some .nan
  else if word = "inf".toList || word = "infinity".toList then some (.infinite negative)
  else readNumeral negative rest

end HostVitals.Number
