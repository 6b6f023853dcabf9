/-!
# Decimal digits

Reading and writing whole numbers in decimal.  A numeral that stands for a machine integer may
carry a sign and any number of leading zeros, has at least one digit and nothing else, and must
lie in the range of its type.

Main results:

- `readSigned_bounds`: what is read lies in the range that was asked for.
-/

namespace HostVitals.Number

/-! ## Digits -/

/-- Whether the character is one of the ten ASCII digits. -/
def isDigit (c : Char) : Bool :=
  '0' ≤ c && c ≤ '9'

/-- The value of an ASCII digit. -/
def digitValue (c : Char) : Nat :=
  c.toNat - '0'.toNat

/-- The number that a run of digits stands for, most significant digit first. -/
def digitsValue (cs : List Char) : Nat :=
  cs.foldl (fun value c => value * 10 + digitValue c) 0

/-- The digits of a number, most significant digit first; zero has one digit. -/
def natDigits (n : Nat) : List Char :=
  Nat.toDigits 10 n

/-- The digits of a number with zeros in front up to a width. -/
def paddedDigits (width n : Nat) : List Char :=
  let digits := natDigits n
  List.replicate (width - digits.length) '0' ++ digits

/-! ## Machine integers -/

/-- The value of a numeral that is digits alone. -/
def readDigits (cs : List Char) : Option Nat :=
  if !cs.isEmpty && cs.all isDigit then some (digitsValue cs) else none

/-- An unsigned number up to `greatest`, with a plus sign or without one. -/
def readUnsigned (greatest : Nat) (cs : List Char) : Option Nat :=
  let digits :=
    match cs with
    | '+' :: rest => rest
    | _ => cs
  (readDigits digits).filter (· ≤ greatest)

/-- A signed number from `least` to `greatest`. -/
def readSigned (least greatest : Int) (cs : List Char) : Option Int :=
  let value : Option Int :=
    match cs with
    | '-' :: rest => (readDigits rest).map (fun n => -(n : Int))
    | '+' :: rest => (readDigits rest).map Int.ofNat
    | _ => (readDigits cs).map Int.ofNat
  value.filter (fun n => least ≤ n && n ≤ greatest)

/-- An unsigned number of 32 bits. -/
def readUInt32 (cs : List Char) : Option UInt32 :=
  (readUnsigned 0xffffffff cs).map UInt32.ofNat

/-- A signed number of 64 bits. -/
def readInt64 (cs : List Char) : Option Int :=
  readSigned (-0x8000000000000000) 0x7fffffffffffffff cs

/-- What is read as a signed number lies between the limits. -/
theorem readSigned_bounds {least greatest n : Int} {cs : List Char}
    (h : readSigned least greatest cs = some n) : least ≤ n ∧ n ≤ greatest := by
  simp only [readSigned, Option.filter_eq_some_iff, Bool.and_eq_true, decide_eq_true_eq] at h
  exact h.2

end HostVitals.Number
