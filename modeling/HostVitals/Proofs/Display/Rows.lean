import HostVitals.Display.Section
import HostVitals.Proofs.Json.Numerals
import HostVitals.Proofs.Text.Words
import HostVitals.Text.Styled

/-!
# Rows of a display

A display is printed line by line, and what was printed can be cut at its line feeds again.  That
gives one row for each line, as long as no line has a line feed of its own.  Numbers have none: they
are written with digits, points, signs and the letters of the words for numbers without digits.

Main results:

- `isFigure_of_mem_fixedPlaces`, `not_mem_fixedPlaces`: the characters that numbers are written
  with.
- `pieces_writeLines`: lines without a line feed are the rows of what is printed.
- `rows_header`: the rows of a header.
-/

namespace HostVitals.Number

/-! ## Characters of numbers -/

/-- A character that numbers are written with. -/
def isFigure (c : Char) : Bool :=
  isDigit c || "-.NaNinf".toList.contains c

variable {c : Char}

theorem isFigure_of_isDigit (h : isDigit c = true) : isFigure c = true := by
  rw [isFigure, h, Bool.true_or]

theorem isFigure_of_mem_paddedDigits {width n : Nat} (h : c ∈ paddedDigits width n) :
    isFigure c = true := by
  rcases List.mem_append.1 h with hzero | hdigit
  · rw [List.eq_of_mem_replicate hzero]
    decide
  · exact isFigure_of_isDigit (isDigit_of_mem_natDigits hdigit)

theorem isFigure_of_mem_placeDigits {places n : Nat} (h : c ∈ placeDigits places n) :
    isFigure c = true := by
  unfold placeDigits at h
  dsimp only at h
  split at h
  · exact isFigure_of_mem_paddedDigits (List.mem_of_mem_take h)
  · rcases List.mem_append.1 h with hwhole | hrest
    · exact isFigure_of_mem_paddedDigits (List.mem_of_mem_take hwhole)
    · rcases List.mem_cons.1 hrest with rfl | hfraction
      · decide
      · exact isFigure_of_mem_paddedDigits (List.mem_of_mem_drop hfraction)

/-- Numbers are written with figures, whether they are finite or not. -/
theorem isFigure_of_mem_fixedPlaces {places : Nat} {x : Binary64} (h : c ∈ fixedPlaces places x) :
    isFigure c = true := by
  have hsign : ∀ negative : Bool, (if negative then ['-'] else []).all isFigure = true := by decide
  have hnan : "NaN".toList.all isFigure = true := by decide
  have hinfinity : "inf".toList.all isFigure = true := by decide
  cases x with
  | nan => exact List.all_eq_true.1 hnan c h
  | signed negative rank =>
      unfold fixedPlaces at h
      dsimp only at h
      split at h
      · rcases List.mem_append.1 h with hmem | hmem
        · exact List.all_eq_true.1 (hsign negative) c hmem
        · exact List.all_eq_true.1 hinfinity c hmem
      · rcases List.mem_append.1 h with hmem | hmem
        · exact List.all_eq_true.1 (hsign negative) c hmem
        · exact isFigure_of_mem_placeDigits hmem

/-- Other characters do not occur in numbers. -/
theorem not_mem_fixedPlaces (h : isFigure c = false) (places : Nat) (x : Binary64) :
    c ∉ fixedPlaces places x := by
  intro hmem
  rw [isFigure_of_mem_fixedPlaces hmem] at h
  cases h

end HostVitals.Number

namespace HostVitals.Display

open HostVitals.Number HostVitals.Text

/-! ## Printed lines -/

/-- Lines without a line feed of their own are the rows of what is printed, each of them ended. -/
theorem pieces_writeLines {colours : Bool} {lines : List Line}
    (h : ∀ line ∈ lines, '\n' ∉ writeSpans colours line) :
    pieces isNewline (writeLines colours lines) = lines.map (writeSpans colours) ++ [[]] := by
  have hcut : isNewline '\n' = true := by decide
  induction lines with
  | nil => rfl
  | cons line lines ih =>
      have hline : '\n' ∉ writeSpans colours line := h line List.mem_cons_self
      have hrest := ih (fun other hother => h other (List.mem_cons_of_mem line hother))
      have hwritten : writeLines colours (line :: lines) =
          writeSpans colours line ++ '\n' :: writeLines colours lines := by
        simp [writeLines]
      rw [hwritten, pieces_append_cut isNewline hcut, pieces_newline_eq_self hline, hrest]
      rfl

/-- The rows of a header. -/
theorem rows_header (title : String) :
    (header title).map (writeSpans false) = [[], title.toList, List.replicate 60 '-'] := by
  simp [header, writeSpans, sayIn, rule, ruleWidth]

/-- The rows of a section, when neither its title nor a line of it has a line feed. -/
theorem pieces_section {title : String} {lines : List Line} (htitle : '\n' ∉ title.toList)
    (hlines : ∀ line ∈ lines, '\n' ∉ writeSpans false line) :
    pieces isNewline (writeLines false (header title ++ lines)) =
      [[], title.toList, List.replicate 60 '-'] ++ lines.map (writeSpans false) ++ [[]] := by
  have hrule : '\n' ∉ List.replicate 60 '-' := by decide
  have hheader : ∀ line ∈ header title, '\n' ∉ writeSpans false line := by
    rw [← List.forall_mem_map (f := writeSpans false) (P := fun row => '\n' ∉ row), rows_header]
    simp [htitle]
  rw [pieces_writeLines, List.map_append, rows_header]
  intro line hline
  rcases List.mem_append.1 hline with hline | hline
  · exact hheader line hline
  · exact hlines line hline

/-! ## Temperatures -/

theorem newline_not_mem_natDigits (n : Nat) : '\n' ∉ natDigits n :=
  fun h => absurd (isDigit_of_mem_natDigits h) (by decide)

theorem newline_not_mem_temperature (degrees : Binary64) : '\n' ∉ (temperature degrees).text := by
  intro h
  rcases List.mem_append.1 h with hfigure | hunit
  · exact not_mem_fixedPlaces (by decide) 1 degrees hfigure
  · exact absurd hunit (by decide)

end HostVitals.Display
