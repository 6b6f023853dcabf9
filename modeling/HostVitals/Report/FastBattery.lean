import HostVitals.Battery
import HostVitals.Number.Decimal
import HostVitals.Report.PowerProfile
import HostVitals.Report.Remaining

/-!
# The fast battery report

The fast report has a line for each battery, told by its percent sign: the charge, and then the
charging state, with a semicolon after each.  The time left stands somewhere in the report, and
the condition and the cycle count come from the power profile; all batteries share them.

Main results:

- `length_batteries`: there is one battery for each line with a percent sign.
- `batteries_shared`: the batteries share time left, condition and cycle count.
-/

namespace HostVitals.Report

open HostVitals.Number HostVitals.Text

/-- Whether a percent sign stands in a text. -/
def hasPercent (cs : List Char) : Bool :=
  cs.contains '%'

/-- A field without the semicolon after it. -/
def dropSeparator (field : List Char) : List Char :=
  dropMark ';' field

/-- The number in a charge field, zero when it holds none. -/
def readCharge (field : List Char) : Binary64 :=
  (readNumber (dropMark '%' (dropSeparator field))).getD .zero

/-- The charge and the status among the fields of a line: the first field with a percent sign,
and the one after it. -/
def chargeAndStatus (fields : List (List Char)) : Binary64 × String :=
  match fields.dropWhile (fun field => !hasPercent field) with
  | charge :: status :: _ => (readCharge charge, String.ofList (dropSeparator status))
  | [charge] => (readCharge charge, unknownStatus)
  | [] => (.zero, unknownStatus)

/-- The battery that a line tells of. -/
def batteryOfLine (timeLeft : Option String) (power : PowerData) (line : List Char) : Battery :=
  let (percent, status) := chargeAndStatus (words line)
  { percent, status, timeLeft, health := power.health, cycleCount := power.cycles }

/-- The batteries of a report. -/
def batteries (report : String) (power : PowerData) : List Battery :=
  let time := (timeLeft report.toList).map String.ofList
  ((lines report.toList).filter hasPercent).map (batteryOfLine time power)

/-- There is one battery for each line with a percent sign. -/
theorem length_batteries (report : String) (power : PowerData) :
    (batteries report power).length = ((lines report.toList).filter hasPercent).length := by
  simp [batteries]

/-- The batteries of a report share what is told only once. -/
theorem batteries_shared {report : String} {power : PowerData} {battery : Battery}
    (h : battery ∈ batteries report power) :
    battery.timeLeft = (timeLeft report.toList).map String.ofList ∧
      battery.health = power.health ∧ battery.cycleCount = power.cycles := by
  simp only [batteries, List.mem_map] at h
  obtain ⟨line, _, rfl⟩ := h
  simp [batteryOfLine]

end HostVitals.Report
