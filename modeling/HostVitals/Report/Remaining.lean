import HostVitals.Text.Lines

/-!
# The time left in a battery report

The fast battery report says how long the charge lasts in the words `1:30 remaining`.  The last
such place of the report counts.

Main results:

- `foldl_laterTime`: what a later line says replaces what the lines before it said.
-/

namespace HostVitals.Report

open HostVitals.Text

/-- The word that follows a time. -/
def remaining : List Char := "remaining".toList

/-- The word directly in front of the last `remaining` that is not the first of the words. -/
def wordBefore : List (List Char) → Option (List Char)
  | word :: next :: rest =>
    match wordBefore (next :: rest) with
    | some found => some found
    | none => if next = remaining then some word else none
  | _ => none

/-- The time left that a line gives, or else the one found in the lines before it. -/
def laterTime (found : Option (List Char)) (line : List Char) : Option (List Char) :=
  (wordBefore (words line)).or found

/-- The time left that a report gives. -/
def timeLeft (report : List Char) : Option (List Char) :=
  (lines report).foldl laterTime none

/-- Nothing is found when no word but the first may be `remaining`. -/
theorem wordBefore_none {fields : List (List Char)} (h : remaining ∉ fields) (word : List Char) :
    wordBefore (word :: fields) = none := by
  induction fields generalizing word with
  | nil => rfl
  | cons next rest ih =>
    simp only [List.mem_cons, not_or] at h
    simp [wordBefore, ih h.2, Ne.symm h.1]

/-- A time found before the lines is only used when they give none. -/
theorem foldl_laterTime (ls : List (List Char)) (found : Option (List Char)) :
    ls.foldl laterTime found = (ls.foldl laterTime none).or found := by
  induction ls generalizing found with
  | nil => rfl
  | cons line ls ih =>
    simp only [List.foldl_cons]
    rw [ih (laterTime found line), ih (laterTime none line)]
    simp [laterTime, Option.or_assoc]

end HostVitals.Report
