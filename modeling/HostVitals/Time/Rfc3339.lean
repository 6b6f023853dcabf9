import HostVitals.Number.Digits
import HostVitals.Text.Blank
import HostVitals.Time.Calendar

/-!
# Instants and their RFC 3339 texts

An instant is a count of seconds from the start of 1970 and a fraction in nanoseconds.  A fraction
of a second or more marks a leap second, which belongs to the second before it.

Instants are written in Coordinated Universal Time, with as many groups of three fraction digits
as are needed.  Texts are read with some freedom: blanks may stand around the parts, a number may
have fewer digits than usual, and the offset from universal time is taken off.
-/

namespace HostVitals.Time

open HostVitals.Number HostVitals.Text

/-! ## Instants -/

/-- An instant. -/
structure Instant where
  /-- Seconds from the start of 1970, leap seconds left out. -/
  seconds : Int
  /-- Nanoseconds within the second; those of a leap second start at one billion. -/
  nanos : Nat
  deriving DecidableEq, Repr

/-- The seconds of a day. -/
def secondsPerDay : Int := 86400

/-- The parts of a time of day. -/
structure Clock where
  /-- The hour, below 24. -/
  hour : Nat
  /-- The minute, below 60. -/
  minute : Nat
  /-- The second; a leap second has the number 60. -/
  second : Nat
  /-- The fraction of the second in nanoseconds. -/
  nanos : Nat
  deriving DecidableEq, Repr

/-- The date of an instant. -/
def Instant.date (t : Instant) : Date :=
  dateOfDay (Int.fdiv t.seconds secondsPerDay)

/-- The time of day of an instant. -/
def Instant.clock (t : Instant) : Clock :=
  let second := (Int.fmod t.seconds secondsPerDay).toNat
  { hour := second / 3600
    minute := second / 60 % 60
    second := second % 60 + t.nanos / nanosPerSecond
    nanos := t.nanos % nanosPerSecond }

/-! ## Writing -/

/-- A year: four digits, and for years beyond those a sign in front. -/
def yearText (year : Int) : List Char :=
  let digits := paddedDigits 4 year.natAbs
  if 0 ≤ year && year ≤ 9999 then digits
  else (if year < 0 then '-' else '+') :: digits

/-- A date with hyphens. -/
def Date.text (date : Date) : List Char :=
  yearText date.year ++ '-' :: paddedDigits 2 date.month ++ '-' :: paddedDigits 2 date.day

/-- A time of day to the second. -/
def Clock.text (clock : Clock) : List Char :=
  paddedDigits 2 clock.hour ++ ':' :: paddedDigits 2 clock.minute ++ ':' ::
    paddedDigits 2 clock.second

/-- The fraction of a second: nothing, or the point and three, six or nine digits. -/
def fractionText (nanos : Nat) : List Char :=
  if nanos = 0 then []
  else if nanos % 1000000 = 0 then '.' :: paddedDigits 3 (nanos / 1000000)
  else if nanos % 1000 = 0 then '.' :: paddedDigits 6 (nanos / 1000)
  else '.' :: paddedDigits 9 nanos

/-- The RFC 3339 text of an instant. -/
def Instant.rfc3339 (t : Instant) : String :=
  String.ofList
    (t.date.text ++ 'T' :: t.clock.text ++ fractionText t.clock.nanos ++ ['Z'])

/-- An instant to the second, for people to read. -/
def Instant.plainText (t : Instant) : String :=
  String.ofList (t.date.text ++ ' ' :: t.clock.text ++ " UTC".toList)

/-! ## Reading -/

/-- A number of one to `most` digits after any blanks, and what follows it. -/
def takeNumber (most : Nat) (cs : List Char) : Option (Nat × List Char) :=
  let cs := trimStart cs
  let digits := (cs.take most).takeWhile isDigit
  if digits.isEmpty then none else some (digitsValue digits, cs.drop digits.length)

/-- A year: up to four digits, or a sign and any number of them. -/
def takeYear (cs : List Char) : Option (Int × List Char) :=
  match trimStart cs with
  | '-' :: rest => (takeSigned rest).map (fun (n, rest) => (-(n : Int), rest))
  | '+' :: rest => (takeSigned rest).map (fun (n, rest) => ((n : Int), rest))
  | cs => (takeNumber 4 cs).map (fun (n, rest) => ((n : Int), rest))
where
  takeSigned (cs : List Char) : Option (Nat × List Char) :=
    let digits := cs.takeWhile isDigit
    if digits.isEmpty then none else some (digitsValue digits, cs.drop digits.length)

/-- What follows a mark that may have blanks in front. -/
def takeMark (mark : Char) (cs : List Char) : Option (List Char) :=
  match trimStart cs with
  | c :: rest => if c = mark then some rest else none
  | [] => none

/-- The fraction of a second in nanoseconds; digits after the ninth are passed over. -/
def takeFraction : List Char → Option (Nat × List Char)
  | '.' :: rest =>
    let digits := rest.takeWhile isDigit
    let kept := digits.take 9
    if digits.isEmpty then none
    else some (digitsValue kept * Nat.pow 10 (9 - kept.length), rest.drop digits.length)
  | cs => some (0, cs)

/-- Two digits as a number. -/
def twoDigits (a b : Char) : Option Nat :=
  if isDigit a && isDigit b then some (digitValue a * 10 + digitValue b) else none

/-- Whether the text starts with the three letters of universal time. -/
def startsWithUtc (cs : List Char) : Bool :=
  (cs.take 3).map Char.toUpper == ['U', 'T', 'C']

/-- The offset from universal time in seconds: its letters, or a sign, two digits for hours and
two for minutes, with any colons and blanks between them. -/
def takeOffset (cs : List Char) : Option (Int × List Char) :=
  if startsWithUtc cs then some (0, cs.drop 3)
  else
    match cs with
    | 'Z' :: rest => some (0, rest)
    | 'z' :: rest => some (0, rest)
    | sign :: a :: b :: rest => do
      let negative ←
        if sign = '+' then some false
        else if sign = '-' || sign = Char.ofNat 0x2212 then some true
        else none
      let hours ← twoDigits a b
      let rest := rest.dropWhile (fun c => c == ':' || isBlank c)
      let (minutes, rest) ←
        match rest with
        | a :: b :: rest => (twoDigits a b).map (fun n => (n, rest))
        | _ => none
      if 60 ≤ minutes then none
      let seconds : Int := hours * 3600 + minutes * 60
      some (if negative then -seconds else seconds, rest)
    | _ => none

/-- The years that a date may lie in. -/
def yearInRange (year : Int) : Bool :=
  -262143 ≤ year && year ≤ 262142

/-- The instant of a date and a time of day at an offset from universal time. -/
def instantAt (date : Date) (clock : Clock) (offset : Int) : Option Instant :=
  if !date.isValid || !yearInRange date.year then none
  else if 24 ≤ clock.hour || 60 ≤ clock.minute || 60 < clock.second then none
  else if offset ≤ -secondsPerDay || secondsPerDay ≤ offset then none
  else
    let leap := clock.second == 60
    let second := if leap then 59 else clock.second
    let t : Instant :=
      { seconds :=
          date.toDay * secondsPerDay + (clock.hour * 3600 + clock.minute * 60 + second : Nat)
            - offset
        nanos := clock.nanos + if leap then nanosPerSecond else 0 }
    if yearInRange t.date.year then some t else none

/-- The instant that a text stands for. -/
def Instant.ofRfc3339? (text : String) : Option Instant := do
  let (year, rest) ← takeYear text.toList
  let (month, rest) ← takeNumber 2 (← takeMark '-' rest)
  let (day, rest) ← takeNumber 2 (← takeMark '-' rest)
  let rest ←
    match rest with
    | c :: rest => if c = 't' || c = 'T' || c = ' ' then some rest else none
    | [] => none
  let (hour, rest) ← takeNumber 2 rest
  let (minute, rest) ← takeNumber 2 (← takeMark ':' rest)
  let (second, rest) ← takeNumber 2 (← takeMark ':' rest)
  let (nanos, rest) ← takeFraction rest
  let (offset, rest) ← takeOffset (trimStart rest)
  if !(trimStart rest).isEmpty then none
  instantAt ⟨year, month, day⟩ ⟨hour, minute, second, nanos⟩ offset

end HostVitals.Time
