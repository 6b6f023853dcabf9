import HostVitals.Collect.Snapshot
import HostVitals.Display.Overview
import HostVitals.JsonForms

/-!
# What is shown

A user asks for the batteries, for fan and temperature, for the sensors or for everything, and for
JSON or for a display.  Having no battery is told on the standard output; other failures of a
single part are told on the standard error output.
-/

namespace HostVitals.CommandLine

open HostVitals.Collect HostVitals.Display HostVitals.Text

/-- What a user asks for. -/
inductive Topic where
  | battery
  | thermal
  | sensors
  | all
  deriving DecidableEq

/-- What is written. -/
structure Printed where
  stdout : String
  /-- What goes to the standard error output. -/
  stderr : String
  deriving DecidableEq

/-- How the output is to look. -/
structure Look where
  json : Bool
  colours : Bool
  deriving DecidableEq

/-- How times are written. -/
structure TimeForms where
  document : Time.Instant → String
  display : Time.Instant → String

/-- The usual forms of times. -/
def TimeForms.usual : TimeForms := ⟨Time.Instant.rfc3339, Time.Instant.plainText⟩

/-! ## Writing -/

/-- A display on the standard output. -/
def display (look : Look) (lines : List Line) : Printed :=
  ⟨String.ofList (writeLines look.colours lines), ""⟩

/-- A line on the standard error output. -/
def complaint (look : Look) (style : Style) (text : String) : Printed :=
  ⟨"", String.ofList (writeLines look.colours [[sayIn style text]])⟩

/-- A document on the standard output. -/
def document (value : Json.Value) : Printed :=
  ⟨value.toText ++ "\n", ""⟩

/-- What is written about the batteries. -/
def toldBatteries (look : Look) : Answer (List Battery) → Printed
  | .ok found =>
    if look.json then document (.array (found.map Battery.toJson))
    else display look (Display.batteries found)
  | .error .noBatteryData =>
    display look [[sayIn .dimmed Failure.noBatteryData.message]]
  | .error failure => complaint look .yellow failure.message

/-- What is written about fan and temperature. -/
def toldThermal (look : Look) (status : Thermal) : Printed :=
  if look.json then document status.toJson else display look (Display.thermal status)

/-- What is written about the sensors. -/
def toldSensors (look : Look) : Answer (List Reading) → Except Breakdown Printed
  | .ok found =>
    if look.json then .ok (document (.array (found.map Reading.toJson)))
    else (Display.sensors found).map (display look)
  | .error failure => .ok (complaint look .red failure.message)

/-- What is written about everything. -/
def toldSnapshot (look : Look) (forms : TimeForms) (snapshot : Snapshot) :
    Except Breakdown Printed :=
  if look.json then .ok (document (snapshot.toJsonAt (forms.document snapshot.collectedAt)))
  else
    (Display.overviewAt snapshot (forms.display snapshot.collectedAt) .all).map (display look)

/-! ## Collecting and writing -/

variable {σ : Type}

/-- A result that may be a breakdown, as work. -/
def orBreakDown {α : Type} (result : Except Breakdown α) : Collect σ α := fun session =>
  (result, session)

/-- Collects what is asked for and writes it. -/
def tell (station : Station σ) (topic : Topic) (look : Look) (forms : TimeForms)
    (time : Time.Instant) : Collect σ Printed := do
  match topic with
  | .battery => return toldBatteries look (← ofSafely (batteries station))
  | .thermal => return toldThermal look (← thermal station)
  | .sensors => orBreakDown (toldSensors look (← sensors station))
  | .all => orBreakDown (toldSnapshot look forms (← snapshot station time))

end HostVitals.CommandLine
