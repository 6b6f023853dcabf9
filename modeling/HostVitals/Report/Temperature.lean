import HostVitals.Number.Binary64
import HostVitals.Number.Digits
import HostVitals.Text.Blank

/-!
# Temperature probes

Two probes are used for the temperature of the processor: a sensor next to the battery, which
gives hundredths of a degree, and the thermal level of the kernel, from which the temperature can
only be estimated.
-/

namespace HostVitals.Report

open HostVitals.Number HostVitals.Text

/-- The whole number in an answer, with blanks around it. -/
def readAnswer (answer : String) : Option Int :=
  readInt64 (trim answer.toList)

/-- The temperature in degrees that the battery sensor gives.  It has to be above zero. -/
def batteryTemperature (answer : String) : Option Binary64 :=
  ((readAnswer answer).filter (fun n => decide (0 < n))).map
    (fun n => (Binary64.ofInt n).div (.ofInt 100))

/-- The thermal level that the kernel gives.  It may not be below zero. -/
def thermalLevel (answer : String) : Option Int :=
  (readAnswer answer).filter (fun n => decide (0 ≤ n))

/-- Half a degree. -/
def halfDegree : Binary64 := (Binary64.ofInt 1).div (.ofInt 2)

/-- The estimate for a thermal level: 45 degrees, and half a degree more for each step. -/
def estimatedTemperature (level : Int) : Binary64 :=
  (Binary64.ofInt 45).add ((Binary64.ofInt level).mul halfDegree)

end HostVitals.Report
