import HostVitals.Number.Binary64
import HostVitals.Text.Blank
import HostVitals.Text.Search

/-!
# Temperature sensors

The temperature sensors of a host report a key and a value.  Values that cannot be temperatures
are dropped, and keys are tidied into labels: the mark `TC` that some facilities put in front of
every key goes, and underscores become blanks.

Main results:

- `readings_append`: readings are taken one by one, in order.
- `readings_plausible`: every reading has a plausible value.
- `dropMarks_not_marked`: no mark is left in front of a label.
-/

namespace HostVitals

open HostVitals.Number HostVitals.Text

/-- The unit of every sensor value. -/
def celsius : String := "°C"

/-- A value of the host's sensor facility. -/
structure RawTemperature where
  /-- The name the facility gives to the sensor. -/
  key : String
  celsius : Binary64
  deriving DecidableEq

/-- A sensor value for people to read. -/
structure Reading where
  label : String
  value : Binary64
  unit : String
  deriving DecidableEq

/-! ## Values -/

/-- The greatest value that is taken for a temperature. -/
def hottest : Binary64 := .ofInt 150

/-- Whether a value can be a temperature: above zero and at most `hottest`. -/
def isPlausible (value : Binary64) : Bool :=
  value.isFinite && Binary64.zero.lt value && value.le hottest

/-! ## Labels -/

/-- The text without the marks `TC` it starts with and the blanks after each. -/
def dropMarks : List Char → List Char
  | 'T' :: 'C' :: rest => dropMarks (trimStart rest)
  | cs => cs
termination_by cs => cs.length
decreasing_by
  have := (List.dropWhile_sublist isBlank (l := rest)).length_le
  simp only [trimStart, List.length_cons]
  omega

/-- The label for a sensor key. -/
def labelOfKey (key : String) : String :=
  String.ofList (dropMarks (trim (replaceChar '_' ' ' key.toList)))

/-- No mark is left in front. -/
theorem dropMarks_not_marked (cs rest : List Char) : dropMarks cs ≠ 'T' :: 'C' :: rest := by
  fun_induction dropMarks cs with
  | case1 tail ih => exact ih
  | case2 cs h =>
    intro heq
    exact h rest heq

/-! ## Readings -/

/-- The readings of the raw temperatures that are plausible, in the same order. -/
def readings (temperatures : List RawTemperature) : List Reading :=
  (temperatures.filter (fun t => isPlausible t.celsius)).map
    (fun t => ⟨labelOfKey t.key, t.celsius, celsius⟩)

/-- Readings are taken one by one. -/
@[simp] theorem readings_append (as bs : List RawTemperature) :
    readings (as ++ bs) = readings as ++ readings bs := by
  simp [readings]

/-- Every reading has a plausible value. -/
theorem readings_plausible {temperatures : List RawTemperature} {r : Reading}
    (h : r ∈ readings temperatures) : isPlausible r.value = true := by
  simp only [readings, List.mem_map, List.mem_filter] at h
  obtain ⟨t, ⟨_, ht⟩, rfl⟩ := h
  exact ht

end HostVitals
