/-!
# Searching a text

Whether a text holds another one, and replacing a character throughout a text.

Main results:

- `contains_eq_true_iff`: a text stands in another exactly when the other splits around it.
-/

namespace HostVitals.Text

/-- Whether `needle` stands somewhere in the text. -/
def contains (needle : List Char) : List Char → Bool
  | [] => needle.isEmpty
  | c :: cs => needle.isPrefixOf (c :: cs) || contains needle cs

/-- The text with every `old` replaced by `new`. -/
def replaceChar (old new : Char) (cs : List Char) : List Char :=
  cs.map (fun c => if c = old then new else c)

/-- A text stands in another exactly when the other splits around it. -/
theorem contains_eq_true_iff (needle cs : List Char) :
    contains needle cs = true ↔ ∃ before rest, cs = before ++ needle ++ rest := by
  induction cs with
  | nil =>
    simp only [contains, List.isEmpty_iff]
    constructor
    · rintro rfl
      exact ⟨[], [], rfl⟩
    · rintro ⟨before, rest, h⟩
      simp at h
      exact h.2.1
  | cons c cs ih =>
    simp only [contains, Bool.or_eq_true, ih, List.isPrefixOf_iff_prefix]
    constructor
    · rintro (⟨rest, h⟩ | ⟨before, rest, rfl⟩)
      · exact ⟨[], rest, by simpa using h.symm⟩
      · exact ⟨c :: before, rest, by simp⟩
    · rintro ⟨before, rest, h⟩
      cases before with
      | nil => exact .inl ⟨rest, by simpa using h.symm⟩
      | cons b before =>
        simp only [List.cons_append, List.cons.injEq] at h
        exact .inr ⟨before, rest, h.2⟩

end HostVitals.Text
