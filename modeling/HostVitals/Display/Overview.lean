import HostVitals.Display.Batteries
import HostVitals.Display.Temperatures
import HostVitals.Snapshot

/-!
# The display of a snapshot

A title with the platform and the time, and then the sections that are asked for.  A section whose
data could not be read shows why.
-/

namespace HostVitals.Display

open HostVitals.Number HostVitals.Text

/-- Which sections are shown. -/
structure Sections where
  battery : Bool
  thermal : Bool
  sensors : Bool
  deriving DecidableEq

/-- All sections. -/
def Sections.all : Sections := ⟨true, true, true⟩

/-- The title, with a text for the time. -/
def title (platform time : String) : List Line :=
  [[], [sayIn (.bold ++ .brightCyan) "HARDWARE TELEMETRY"], rule '=',
   [say "  ", sayIn .bold "Platform:", say " ", say platform, say "   ",
    sayIn .bold "Collected:", say " ", say time]]

/-- A section whose data could not be read. -/
def failed (name : String) (style : Style) (why : String) : List Line :=
  header name ++ [[say "  ", sayIn style why]]

/-- The battery section of a snapshot. -/
def batterySection (snapshot : Snapshot) : List Line :=
  match snapshot.batteryError with
  | some why => failed "Battery" .dimmed why
  | none => batteries snapshot.batteries

/-- The sensor section of a snapshot. -/
def sensorSection (snapshot : Snapshot) : Except Breakdown (List Line) :=
  match snapshot.sensorError with
  | some why => .ok (failed "Sensors" .red why)
  | none => sensors snapshot.sensors

/-- The display of a snapshot, with a text for its time. -/
def overviewAt (snapshot : Snapshot) (time : String) (sections : Sections) :
    Except Breakdown (List Line) := do
  let last ← if sections.sensors then sensorSection snapshot else .ok []
  return title snapshot.platform time
    ++ (if sections.battery then batterySection snapshot else [])
    ++ (if sections.thermal then thermal snapshot.thermal else [])
    ++ last

/-- The display of a snapshot. -/
def overview (snapshot : Snapshot) (sections : Sections) : Except Breakdown (List Line) :=
  overviewAt snapshot snapshot.collectedAt.plainText sections

end HostVitals.Display
