import HostVitals.Battery
import HostVitals.Number.Decimal

/-!
# Power supply entries

The kernel lists each battery as an entry with a capacity text and, usually, a status text.

Main results:

- `batteryOfSupply_blank`: an entry without a status, or with a blank one, has the unknown status.
-/

namespace HostVitals.Report

open HostVitals.Number HostVitals.Text

/-- What the kernel tells of a battery. -/
structure Supply where
  name : String
  capacity : String
  /-- The text of its status, if it can be read. -/
  status : Option String
  deriving DecidableEq

/-- The status that a text gives. -/
def statusOfText (text : Option String) : String :=
  let word := trim (text.getD "").toList
  if word.isEmpty then unknownStatus else String.ofList word

/-- The battery with the given texts for capacity and status. -/
def batteryOfSupply (capacity : String) (status : Option String) : Battery :=
  { percent := (readNumber (trim capacity.toList)).getD .zero
    status := statusOfText status
    timeLeft := none
    health := none
    cycleCount := 0 }

/-- The battery of an entry. -/
def Supply.toBattery (supply : Supply) : Battery :=
  batteryOfSupply supply.capacity supply.status

/-- A missing status is a blank one. -/
theorem batteryOfSupply_blank (capacity : String) :
    (batteryOfSupply capacity none).status = unknownStatus := by
  simp [batteryOfSupply, statusOfText, trim, trimStart, trimEnd]

end HostVitals.Report
