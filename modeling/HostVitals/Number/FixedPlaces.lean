import HostVitals.Number.Binary64
import HostVitals.Number.Digits

/-!
# Numbers with a fixed count of decimal places

A number is written with a given count of digits after the point, rounded once from its exact
value, with a half going to the even neighbour.  The sign of zero is kept.
-/

namespace HostVitals.Number

/-- The digits of `n / 10 ^ places`, with a point when there are places. -/
def placeDigits (places n : Nat) : List Char :=
  let digits := paddedDigits (places + 1) n
  let whole := digits.take (digits.length - places)
  let fraction := digits.drop (digits.length - places)
  if fraction.isEmpty then whole else whole ++ '.' :: fraction

/-- A number with a fixed count of decimal places. -/
def fixedPlaces (places : Nat) : Binary64 → List Char
  | .nan => "NaN".toList
  | .signed negative rank =>
    let sign := if negative then ['-'] else []
    if rank = Rank.infinity then sign ++ "inf".toList
    else sign ++ placeDigits places (roundHalfEven (rank.units * Nat.pow 10 places) unitsPerOne)

end HostVitals.Number
