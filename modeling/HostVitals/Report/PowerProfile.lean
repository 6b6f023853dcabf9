import HostVitals.Number.Digits
import HostVitals.Text.Lines
import HostVitals.Text.Lower
import HostVitals.Text.Search

/-!
# The power profile

The slow, detailed report on the power supply.  It has a line for each item, with the name in
front of a colon and the value after it; lines with more than one colon say nothing clear and are
not read.  The collectors use the cycle count and the condition of the battery and the speed of
the fan.

Main results:

- `valueOfLine_single`: a line with one colon has the text after it as its value.
- `valueOfLine_several`: a line with two colons or more has no value.
-/

namespace HostVitals.Report

open HostVitals.Number HostVitals.Text

/-! ## Items -/

/-- The character between the name and the value of an item. -/
def isColon (c : Char) : Bool :=
  c == ':'

/-- The value of a line with exactly one colon. -/
def valueOfLine (line : List Char) : Option (List Char) :=
  match pieces isColon line with
  | [_, value] => some (trim value)
  | _ => none

/-- Whether a word or phrase in small letters stands in a line, in whatever case. -/
def mentions (phrase : String) (line : List Char) : Bool :=
  contains phrase.toList (lower line)

/-- The value of a line with one colon. -/
theorem valueOfLine_single {name value : List Char} (hname : name.all (fun c => !isColon c) = true)
    (hvalue : value.all (fun c => !isColon c) = true) :
    valueOfLine (name ++ ':' :: value) = some (trim value) := by
  have hone : ∀ cs : List Char, cs.all (fun c => !isColon c) = true → pieces isColon cs = [cs] := by
    intro cs hcs
    exact pieces_eq_self (fun c hc => by simpa using List.all_eq_true.1 hcs c hc)
  simp [valueOfLine, pieces_append_cut isColon (c := ':') rfl, hone name hname, hone value hvalue]

/-- A line with two colons or more has no value. -/
theorem valueOfLine_several (a b c : List Char) :
    valueOfLine (a ++ ':' :: b ++ ':' :: c) = none := by
  rw [valueOfLine, List.append_assoc, List.cons_append,
    pieces_append_cut isColon (c := ':') rfl, pieces_append_cut isColon (c := ':') rfl]
  rcases ha : pieces isColon a with _ | ⟨a₁, as⟩
  · exact absurd ha (pieces_ne_nil _ _)
  · rcases hb : pieces isColon b with _ | ⟨b₁, bs⟩
    · exact absurd hb (pieces_ne_nil _ _)
    · rcases hc : pieces isColon c with _ | ⟨c₁, cs⟩
      · exact absurd hc (pieces_ne_nil _ _)
      · cases as <;> cases bs <;> simp

/-! ## Condition and cycle count -/

/-- What the power profile tells of the battery. -/
structure PowerData where
  /-- The condition, if the report has one. -/
  health : Option String
  /-- The charge cycles, zero when the report has none. -/
  cycles : UInt32
  deriving DecidableEq

/-- The data of a host without a power profile. -/
def PowerData.none : PowerData := ⟨.none, 0⟩

/-- The data after one more line.  A later line replaces what an earlier one said, also when its
count is none. -/
def PowerData.addLine (data : PowerData) (line : List Char) : PowerData :=
  match valueOfLine line with
  | .none => data
  | some value =>
    { health :=
        if mentions "condition" line then some (String.ofList value) else data.health
      cycles :=
        if mentions "cycle count" line then (readUInt32 value).getD 0 else data.cycles }

/-- What a report tells of the battery. -/
def powerData (report : String) : PowerData :=
  (lines report.toList).foldl PowerData.addLine PowerData.none

/-! ## Fan -/

/-- Whether a line is about the speed of a fan. -/
def isFanLine (line : List Char) : Bool :=
  mentions "fan" line && mentions "speed" line

/-- The speed in the value of a fan line: the number it starts with, zero when it starts with
none. -/
def readFanSpeed (value : List Char) : UInt32 :=
  ((words value).head?.bind readUInt32).getD 0

/-- The speed of the fan in the first line about it that has a value. -/
def fanSpeed (report : String) : Option UInt32 :=
  (((lines report.toList).filter isFanLine).findSome? valueOfLine).map readFanSpeed

end HostVitals.Report
