/-!
# Units of time and dates of the Gregorian calendar

Times of day and durations are counted in nanoseconds.  Days are counted from the first of January
1970, in both directions, and dates follow the Gregorian rules for all years, including years before
the first.  A year is taken to start in March, so that the leap day is its last day.

Main results:

- `isLeapYear_century`: of the centuries only every fourth has a leap day.
-/

namespace HostVitals.Time

/-! ## Units -/

/-- The nanoseconds of a second. -/
def nanosPerSecond : Nat := 1000000000

/-- The nanoseconds of a millisecond. -/
def nanosPerMilli : Nat := 1000000

/-! ## Dates -/

/-- A date: the year, the month from one to twelve and the day of the month. -/
structure Date where
  /-- The year, where the year before the first is zero. -/
  year : Int
  month : Nat
  /-- The day of the month, counted from one. -/
  day : Nat
  deriving DecidableEq, Repr

/-- The days of four hundred years. -/
def daysPerCycle : Int := 146097

/-- The days from the first of March of year zero to the first of January 1970. -/
def epochShift : Int := 719468

/-- Whether a year has a leap day. -/
def isLeapYear (year : Int) : Bool :=
  year % 4 == 0 && (year % 100 != 0 || year % 400 == 0)

/-- The number of days of a month. -/
def daysOfMonth (year : Int) (month : Nat) : Nat :=
  if month == 2 then (if isLeapYear year then 29 else 28)
  else if month == 4 || month == 6 || month == 9 || month == 11 then 30
  else 31

/-- Whether the calendar has the date. -/
def Date.isValid (date : Date) : Bool :=
  1 ≤ date.month && date.month ≤ 12 && 1 ≤ date.day && date.day ≤ daysOfMonth date.year date.month

/-- The day with a date. -/
def Date.toDay (date : Date) : Int :=
  let year := if date.month ≤ 2 then date.year - 1 else date.year
  let cycle := Int.fdiv year 400
  let yearOfCycle := year - cycle * 400
  let monthFromMarch : Int := (date.month + 9) % 12
  let dayOfYear := (153 * monthFromMarch + 2) / 5 + date.day - 1
  let dayOfCycle := yearOfCycle * 365 + yearOfCycle / 4 - yearOfCycle / 100 + dayOfYear
  cycle * daysPerCycle + dayOfCycle - epochShift

/-- The date of a day. -/
def dateOfDay (day : Int) : Date :=
  let shifted := day + epochShift
  let cycle := Int.fdiv shifted daysPerCycle
  let dayOfCycle := shifted - cycle * daysPerCycle
  let yearOfCycle :=
    (dayOfCycle - dayOfCycle / 1460 + dayOfCycle / 36524 - dayOfCycle / 146096) / 365
  let dayOfYear := dayOfCycle - (365 * yearOfCycle + yearOfCycle / 4 - yearOfCycle / 100)
  let monthFromMarch := (5 * dayOfYear + 2) / 153
  let month := if monthFromMarch < 10 then monthFromMarch + 3 else monthFromMarch - 9
  { year := yearOfCycle + cycle * 400 + (if month ≤ 2 then 1 else 0)
    month := month.toNat
    day := (dayOfYear - (153 * monthFromMarch + 2) / 5 + 1).toNat }

/-- Of the centuries only every fourth has a leap day. -/
theorem isLeapYear_century (n : Int) : isLeapYear (100 * n) = true ↔ n % 4 = 0 := by
  simp only [isLeapYear, Bool.and_eq_true, Bool.or_eq_true, beq_iff_eq, bne_iff_ne]
  omega

end HostVitals.Time
