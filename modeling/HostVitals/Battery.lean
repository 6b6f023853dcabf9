import HostVitals.Number.Binary64
import HostVitals.Text.Blank
import HostVitals.Text.Lower

/-!
# Batteries

One battery as it was seen when the data were collected, and the coarse class of its charging
state.  The state itself is free text, whose words depend on the source.
-/

namespace HostVitals

open HostVitals.Number HostVitals.Text

/-- A battery. -/
structure Battery where
  /-- The charge in percent of the capacity. -/
  percent : Binary64
  /-- The charging state in the words of the source. -/
  status : String
  /-- How long the charge will last or charging will take. -/
  timeLeft : Option String
  /-- The condition in the words of the source. -/
  health : Option String
  /-- The charge cycles so far, zero when they are not known. -/
  cycleCount : UInt32
  deriving DecidableEq

/-- The status of a battery whose source reports none. -/
def unknownStatus : String := "Unknown"

/-- The class of a charging state. -/
inductive ChargeState where
  /-- The charge grows. -/
  | charging
  /-- The charge is used up. -/
  | discharging
  /-- The battery is full, or as good as full. -/
  | full
  /-- The battery is on mains power and its charge stays. -/
  | notCharging
  | unknown
  deriving DecidableEq

namespace ChargeState

/-- The name of a class as people read it. -/
def display : ChargeState → String
  | .charging => "Charging"
  | .discharging => "Discharging"
  | .full => "Full"
  | .notCharging => "Not charging"
  | .unknown => "Unknown"

/-- The words and phrases that are recognised, in small letters, with their classes. -/
def phrases : List (String × ChargeState) :=
  [("charging", .charging), ("discharging", .discharging), ("charged", .full), ("full", .full),
   ("finishing charge", .full), ("finishing", .full), ("not charging", .notCharging),
   ("ac attached", .notCharging), ("ac", .notCharging)]

/-- The class of a status text.  Blanks around it and the case of its letters do not matter. -/
def ofStatus (status : String) : ChargeState :=
  let word := String.ofList (lower (trim status.toList))
  (phrases.lookup word).getD .unknown

end ChargeState

/-- The class of a battery's charging state. -/
def Battery.chargeState (battery : Battery) : ChargeState :=
  ChargeState.ofStatus battery.status

end HostVitals
