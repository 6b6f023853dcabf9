import HostVitals.Text.Blank

/-!
# Lines of a text

A line ends at a line feed, and a carriage return directly before that line feed belongs to the
line end.  A last line that is not ended is a line unless it is empty, and keeps its carriage
return.

Main results:

- `lines_append_newline`: the lines of two texts joined by a line feed are those of the first
  text, every one ended, and then those of the second.
-/

namespace HostVitals.Text

/-- The line feed, which ends a line. -/
def isNewline (c : Char) : Bool :=
  c == '\n'

/-- The text without its last character when that is `mark`. -/
def dropMark (mark : Char) (cs : List Char) : List Char :=
  if cs.getLast? = some mark then cs.dropLast else cs

/-- The lines that are ended by a line feed. -/
def endedLines (pieces : List (List Char)) : List (List Char) :=
  pieces.map (dropMark '\r')

/-- The lines of a text. -/
def lines (cs : List Char) : List (List Char) :=
  let parts := pieces isNewline cs
  endedLines parts.dropLast ++ (parts.getLast?.toList.filter (fun line => !line.isEmpty))

/-- Joining two texts by a line feed ends every line of the first. -/
theorem lines_append_newline (as bs : List Char) :
    lines (as ++ '\n' :: bs) = endedLines (pieces isNewline as) ++ lines bs := by
  have hcut : isNewline '\n' = true := rfl
  simp only [lines, pieces_append_cut isNewline hcut]
  rw [List.dropLast_append_of_ne_nil (pieces_ne_nil _ _), List.getLast?_append]
  cases h : (pieces isNewline bs).getLast? with
  | none => exact absurd (List.getLast?_eq_none_iff.1 h) (pieces_ne_nil _ _)
  | some line => simp [endedLines]

end HostVitals.Text
