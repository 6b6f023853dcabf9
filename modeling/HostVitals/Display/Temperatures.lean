import HostVitals.Breakdown
import HostVitals.Display.Section
import HostVitals.Sensor
import HostVitals.Thermal

/-!
# The sections on temperatures

The thermal section shows fan and processor temperature, with estimates marked as such.  The
sensor section lists the readings in two columns.
-/

namespace HostVitals.Display

open HostVitals.Number HostVitals.Text

/-! ## Fan and processor -/

/-- The lines on the processor temperature. -/
def processor (status : Thermal) : List Line :=
  match status.source with
  | .none => []
  | .batterySensor => [[say "    CPU Temp: ", temperature status.temperature]]
  | .thermalLevel =>
    [[say "    CPU Temp: ~", temperature status.temperature, say " ",
      sayIn .dimmed "(estimated from thermal level)"]]

/-- The lines on the fan. -/
def fan (status : Thermal) : List Line :=
  if 0 < status.fanSpeed then
    [[say "    Fan Speed: ", ⟨.plain, natDigits status.fanSpeed.toNat⟩, say " RPM"]]
  else []

/-- The thermal section. -/
def thermal (status : Thermal) : List Line :=
  header "Thermal" ++
    if status.isEmpty then [[say "  ", sayIn .dimmed "No thermal data available"]]
    else fan status ++ processor status

/-! ## Sensors -/

/-- The greatest width of a column. -/
def widestColumn : Nat := 65535

/-- The breakdown when a column would be wider than columns can be. -/
def columnTooWide : Breakdown := .told "Formatting argument out of range"

/-- A label on the given width. -/
def padded (width : Nat) (label : String) : List Char :=
  label.toList ++ List.replicate (width - label.toList.length) ' '

/-- The width of the column of labels. -/
def labelWidth (readings : List Reading) : Nat :=
  readings.foldl (fun width reading => max width reading.label.toList.length) 0

/-- The line for a reading. -/
def reading (width : Nat) (r : Reading) : Line :=
  [say "    ", ⟨.plain, padded width r.label⟩, say "  ", temperature r.value]

/-- The sensor section. -/
def sensors (rs : List Reading) : Except Breakdown (List Line) :=
  if rs.isEmpty then
    .ok (header "Sensors" ++ [[say "  ", sayIn .dimmed "No temperature sensors found"]])
  else if widestColumn < labelWidth rs then .error columnTooWide
  else .ok (header "Sensors" ++ rs.map (reading (labelWidth rs)))

end HostVitals.Display
