import HostVitals.Proofs.Text.Utf8
import HostVitals.Proofs.Text.Words
import HostVitals.Text.Lower

/-!
# Blanks and lower-case forms

The lower-case form of a character is another character that its run in the table leads to, or the
character itself, or the two characters that the dotted capital I has.

Blanks have no case, and no other character has a blank in its lower-case form: the runs of the
table and what they lead to lie apart from the blanks.  So the words of a text stay apart when the
text is taken to lower case.

Main results:

- `lowerForm_lowerChar`: the forms that a character may have in lower case.
- `lowerChar_of_isBlank`, `isBlank_of_mem_lowerChar`: blanks stay, and no blank comes about.
- `firstWord_lower`: the first word of the lower-case form is the lower-case form of the first word.
-/

namespace HostVitals.Text

/-! ## Forms of characters -/

/-- The runs lead neither below the first code point nor above the last one, and not into the gap
between the code points of characters. -/
theorem caseRuns_inside :
    ∀ run ∈ caseRuns, 0 ≤ (run.first : Int) + run.shift ∧ (run.last : Int) + run.shift < 0x110000 ∧
      ((run.last : Int) + run.shift < 0xD800 ∨ 0xDFFF < (run.first : Int) + run.shift) := by
  decide +kernel

/-- A run leads to the code points of characters. -/
theorem exists_shifted {run : CaseRun} (hrun : run ∈ caseRuns) {code : Nat}
    (hholds : run.holds code = true) :
    ∃ shifted : Nat, (code : Int) + run.shift = shifted ∧ shifted.isValidChar := by
  obtain ⟨hleast, hgreatest, hgap⟩ := caseRuns_inside run hrun
  obtain ⟨hfirst, hlast, -⟩ := (CaseRun.mem_iff run code).1 hholds
  obtain ⟨shifted, hshifted⟩ := Int.eq_ofNat_of_zero_le (by omega : 0 ≤ (code : Int) + run.shift)
  refine ⟨shifted, hshifted, ?_⟩
  unfold Nat.isValidChar
  omega

/-- The forms that a character may have in lower case: the two characters of the dotted capital I,
the character that a run leads to, and the character itself when it lies in no run. -/
inductive LowerForm (c : Char) : List Char → Prop
  | dotted (h : c = dottedCapitalI) : LowerForm c ['i', combiningDot]
  | shifted {run : CaseRun} {d : Char} (hrun : run ∈ caseRuns) (hholds : run.holds c.toNat = true)
      (hcode : (d.toNat : Int) = c.toNat + run.shift) : LowerForm c [d]
  | own (hnone : ∀ run ∈ caseRuns, run.holds c.toNat ≠ true) : LowerForm c [c]

/-- The lower-case form of a character is one of these. -/
theorem lowerForm_lowerChar (c : Char) : LowerForm c (lowerChar c) := by
  unfold lowerChar
  split
  · next hdotted => exact .dotted hdotted
  · split
    · next run hfound =>
        have hrun := List.mem_of_find?_eq_some hfound
        have hholds := List.find?_some hfound
        obtain ⟨shifted, hshifted, hvalid⟩ := exists_shifted hrun hholds
        refine .shifted hrun hholds ?_
        rw [hshifted, Int.toNat_natCast, Utf8.toNat_ofNat_of_valid hvalid]
    · next hnone => exact .own (List.find?_eq_none.1 hnone)

/-! ## Blanks -/

/-- The runs of code points of the blanks. -/
def blankRuns : List (Nat × Nat) :=
  [(9, 13), (0x20, 0x20), (0x85, 0x85), (0xA0, 0xA0), (0x1680, 0x1680), (0x2000, 0x200A),
   (0x2028, 0x2029), (0x202F, 0x202F), (0x205F, 0x205F), (0x3000, 0x3000)]

/-- A blank is a character whose code point lies in one of the runs. -/
theorem isBlank_iff {c : Char} :
    isBlank c = true ↔ ∃ run ∈ blankRuns, run.1 ≤ c.toNat ∧ c.toNat ≤ run.2 := by
  simp only [isBlank, blankRuns, Bool.or_eq_true, Bool.and_eq_true, decide_eq_true_eq, beq_iff_eq,
    List.mem_cons, List.not_mem_nil, or_false, exists_eq_or_imp, exists_eq_left]
  omega

/-- Neither the characters with a lower-case form nor these forms are blanks. -/
theorem caseRuns_apart :
    ∀ run ∈ caseRuns, ∀ blanks ∈ blankRuns,
      (run.last < blanks.1 ∨ blanks.2 < run.first) ∧
        ((run.last : Int) + run.shift < blanks.1 ∨ (blanks.2 : Int) < run.first + run.shift) := by
  decide +kernel

/-- A blank is its own lower-case form. -/
theorem lowerChar_of_isBlank {c : Char} (h : isBlank c = true) : lowerChar c = [c] := by
  obtain ⟨blanks, hblanks, hfirst, hlast⟩ := isBlank_iff.1 h
  have hform := lowerForm_lowerChar c
  generalize lowerChar c = form at hform
  cases hform with
  | dotted hdotted =>
      rw [hdotted] at h
      exact absurd h (by decide)
  | @shifted run _ hrun hholds =>
      obtain ⟨hapart, -⟩ := caseRuns_apart run hrun blanks hblanks
      rw [CaseRun.mem_iff] at hholds
      omega
  | own => rfl

/-- No blank comes about in the lower-case form of another character. -/
theorem isBlank_of_mem_lowerChar {c d : Char} (h : isBlank c = false) (hd : d ∈ lowerChar c) :
    isBlank d = false := by
  have hform := lowerForm_lowerChar c
  generalize lowerChar c = form at hd hform
  cases hform with
  | dotted => exact (by decide : BlankFree ['i', combiningDot]) d hd
  | @shifted run _ hrun hholds hcode =>
      rw [← List.mem_singleton.1 hd] at hcode
      rw [CaseRun.mem_iff] at hholds
      rw [← Bool.not_eq_true, isBlank_iff]
      rintro ⟨blanks, hblanks, hfirst, hlast⟩
      obtain ⟨-, hapart⟩ := caseRuns_apart run hrun blanks hblanks
      omega
  | own =>
      rw [List.mem_singleton.1 hd]
      exact h

/-! ## Texts -/

/-- The first word of the lower-case form is the lower-case form of the first word. -/
theorem firstWord_lower (cs : List Char) : firstWord (lower cs) = lower (firstWord cs) := by
  induction cs with
  | nil => rfl
  | cons c cs ih =>
      unfold firstWord at ih ⊢
      by_cases hc : isBlank c = true
      · simp [lower, lowerChar_of_isBlank hc, hc]
      · have hplain : isBlank c = false := by simpa using hc
        have hkept : ∀ d ∈ lowerChar c, (!isBlank d) = true := by
          intro d hd
          simpa using isBlank_of_mem_lowerChar hplain hd
        have hfirst : (c :: cs).takeWhile (fun c => !isBlank c) =
            c :: cs.takeWhile (fun c => !isBlank c) := by simp [hplain]
        rw [hfirst]
        unfold lower at ih ⊢
        rw [List.flatMap_cons, List.flatMap_cons, List.takeWhile_append_of_pos hkept, ih]

end HostVitals.Text
