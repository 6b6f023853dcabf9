import HostVitals.Number.FixedPlaces
import HostVitals.Text.Styled

/-!
# Sections of the display

What the sections have in common: the header, and the way temperatures are shown.
-/

namespace HostVitals.Display

open HostVitals.Number HostVitals.Text

/-- The width of the rules across the display. -/
def ruleWidth : Nat := 60

/-- A rule across the display. -/
def rule (mark : Char) : Line :=
  [⟨.plain, List.replicate ruleWidth mark⟩]

/-- The header of a section: an empty line, the title and a rule. -/
def header (title : String) : List Line :=
  [[], [sayIn (.bold ++ .cyan) title], rule '-']

/-- The temperature from which on the processor is hot. -/
def hotFrom : Binary64 := .ofInt 90

/-- The temperature from which on the processor is warm. -/
def warmFrom : Binary64 := .ofInt 70

/-- The style of a temperature. -/
def temperatureStyle (degrees : Binary64) : Style :=
  if hotFrom.le degrees then .red else if warmFrom.le degrees then .yellow else .green

/-- A temperature, with one place after the point. -/
def temperature (degrees : Binary64) : Span :=
  ⟨temperatureStyle degrees, fixedPlaces 1 degrees ++ ['°', 'C']⟩

end HostVitals.Display
