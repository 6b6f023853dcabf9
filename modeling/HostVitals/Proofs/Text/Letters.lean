import HostVitals.Number.Decimal
import HostVitals.Proofs.Text.Lower

/-!
# ASCII letters and lower-case forms

On ASCII characters the lower-case form only makes small letters of the capitals.  Any other
character has a character beyond ASCII in its lower-case form, with the Kelvin sign as the one
exception, whose form is `k`.  So an ASCII text in small letters without that one is the lower-case
form of the texts that differ from it in the case of ASCII letters, and of no others.

Main results:

- `lowerChar_of_ascii`, `lowerChar_beyond_ascii`: the lower-case forms of characters in ASCII and
  beyond it.
- `lower_eq_iff`: which texts have a given lower-case form.
-/

namespace HostVitals.Text

open HostVitals.Number

/-- The text has ASCII characters only. -/
def IsAscii (cs : List Char) : Prop :=
  ∀ c ∈ cs, c.toNat < 0x80

instance : DecidablePred IsAscii := fun cs =>
  decidable_of_iff (cs.all (fun c => decide (c.toNat < 0x80)) = true) (by simp [IsAscii])

/-- The texts are the same but for the case of their ASCII letters. -/
def SameButCase (as bs : List Char) : Prop :=
  as.map asciiSmall = bs.map asciiSmall

instance (as bs : List Char) : Decidable (SameButCase as bs) :=
  inferInstanceAs (Decidable (as.map asciiSmall = bs.map asciiSmall))

/-! ## Characters -/

section

variable {c : Char}

/-- The ASCII capitals by their code points. -/
theorem asciiSmall_eq (c : Char) :
    asciiSmall c = if 0x41 ≤ c.toNat ∧ c.toNat ≤ 0x5A then Char.ofNat (c.toNat + 32) else c := by
  have hleast : 'A' ≤ c ↔ 0x41 ≤ c.toNat := Iff.rfl
  have hgreatest : c ≤ 'Z' ↔ c.toNat ≤ 0x5A := Iff.rfl
  simp only [asciiSmall, Bool.and_eq_true, decide_eq_true_eq, hleast, hgreatest]

/-- Beyond ASCII there is no ASCII letter to make small. -/
theorem asciiSmall_of_beyond (h : 0x80 ≤ c.toNat) : asciiSmall c = c := by
  rw [asciiSmall_eq, if_neg (by omega)]

/-- The only run with code points in ASCII is that of the capitals. -/
theorem caseRuns_from_ascii :
    caseRuns.filter (fun run => decide (run.first < 0x80)) = [⟨0x41, 0x5A, 1, 32⟩] := by
  rfl

/-- In ASCII the lower-case form is the small letter. -/
theorem lowerChar_of_ascii (h : c.toNat < 0x80) : lowerChar c = [asciiSmall c] := by
  have hform := lowerForm_lowerChar c
  generalize lowerChar c = form at hform
  rw [asciiSmall_eq]
  cases hform with
  | dotted hdotted =>
      rw [hdotted] at h
      exact absurd h (by decide)
  | @shifted run d hrun hholds hcode =>
      rw [CaseRun.mem_iff] at hholds
      have hcapitals : run ∈ caseRuns.filter (fun run => decide (run.first < 0x80)) := by
        rw [List.mem_filter, decide_eq_true_iff]
        exact ⟨hrun, by omega⟩
      rw [caseRuns_from_ascii, List.mem_singleton] at hcapitals
      subst hcapitals
      have hsmall : d.toNat = c.toNat + 32 := by
        dsimp only at hcode
        omega
      rw [if_pos ⟨hholds.1, hholds.2.1⟩, ← hsmall, Char.ofNat_toNat]
  | own hnone =>
      have hnot := hnone ⟨0x41, 0x5A, 1, 32⟩ List.mem_cons_self
      rw [ne_eq, CaseRun.mem_iff] at hnot
      rw [if_neg fun hcapital => hnot ⟨hcapital.1, hcapital.2, Nat.mod_one _⟩]

/-- The Kelvin sign. -/
def kelvinSign : Char := Char.ofNat 0x212A

/-- The lower-case form of the Kelvin sign is in ASCII. -/
theorem lowerChar_kelvinSign : lowerChar kelvinSign = ['k'] := by
  decide +kernel

/-- No run leads from beyond ASCII into it, but for that of the Kelvin sign. -/
theorem caseRuns_beyond_ascii {run : CaseRun} (hrun : run ∈ caseRuns) {code : Nat}
    (hholds : run.holds code = true) (hbeyond : 0x80 ≤ code) (hkelvin : code ≠ 0x212A) :
    0x80 ≤ (code : Int) + run.shift := by
  rw [CaseRun.mem_iff] at hholds
  apply Int.not_lt.1
  intro hlow
  have hmem : run ∈ caseRuns.filter
      (fun run => decide ((run.first : Int) + run.shift < 0x80)) := by
    rw [List.mem_filter, decide_eq_true_iff]
    exact ⟨hrun, by omega⟩
  rw [caseRuns_into_ascii] at hmem
  simp only [List.mem_cons, List.not_mem_nil, or_false] at hmem
  rcases hmem with rfl | rfl
  · dsimp only at hholds
    omega
  · dsimp only at hholds
    omega

/-- Beyond ASCII the lower-case form stays there at least in part, but for the Kelvin sign. -/
theorem lowerChar_beyond_ascii (h : 0x80 ≤ c.toNat) (hkelvin : c ≠ kelvinSign) :
    ∃ d ∈ lowerChar c, 0x80 ≤ d.toNat := by
  have hform := lowerForm_lowerChar c
  generalize lowerChar c = form at hform ⊢
  cases hform with
  | dotted => exact ⟨combiningDot, by simp, by decide⟩
  | @shifted run d hrun hholds hcode =>
      have hsign : c.toNat ≠ 0x212A := by
        intro hsame
        apply hkelvin
        rw [← Char.ofNat_toNat c, hsame]
        rfl
      have hbeyond := caseRuns_beyond_ascii hrun hholds h hsign
      exact ⟨d, List.mem_singleton_self d, by omega⟩
  | own => exact ⟨c, List.mem_singleton_self c, h⟩

end

/-! ## Texts -/

section

variable {cs ds : List Char}

/-- The lower-case form of an ASCII text. -/
theorem IsAscii.lower_eq (h : IsAscii cs) : lower cs = cs.map asciiSmall := by
  induction cs with
  | nil => rfl
  | cons c cs ih =>
      have hc : lowerChar c = [asciiSmall c] := lowerChar_of_ascii (h c List.mem_cons_self)
      have hcs := ih fun d hd => h d (List.mem_cons_of_mem c hd)
      rw [lower, List.flatMap_cons, ← lower, hc, hcs]
      rfl

/-- A lower-case form in ASCII without `k` comes from an ASCII text. -/
theorem isAscii_of_lower (h : IsAscii (lower cs)) (hk : 'k' ∉ lower cs) : IsAscii cs := by
  intro c hc
  have hpart : ∀ d ∈ lowerChar c, d ∈ lower cs := fun d hd => List.mem_flatMap.2 ⟨c, hc, hd⟩
  apply Nat.lt_of_not_le
  intro hbeyond
  by_cases hkelvin : c = kelvinSign
  · apply hk
    apply hpart
    rw [hkelvin, lowerChar_kelvinSign]
    exact List.mem_singleton_self 'k'
  · obtain ⟨d, hd, hfar⟩ := lowerChar_beyond_ascii hbeyond hkelvin
    have hnear := h d (hpart d hd)
    omega

/-- Small letters instead of capitals leave what lies beyond ASCII. -/
theorem isAscii_of_map_asciiSmall (h : IsAscii (cs.map asciiSmall)) : IsAscii cs := by
  intro c hc
  apply Nat.lt_of_not_le
  intro hbeyond
  have hnear := h (asciiSmall c) (List.mem_map_of_mem hc)
  rw [asciiSmall_of_beyond hbeyond] at hnear
  exact absurd hnear (Nat.not_lt.2 hbeyond)

/-- Which texts have an ASCII text without `k` as their lower-case form. -/
theorem lower_eq_iff (hds : IsAscii ds) (hk : 'k' ∉ ds) :
    lower cs = ds ↔ cs.map asciiSmall = ds := by
  constructor
  · rintro rfl
    exact (isAscii_of_lower hds hk).lower_eq.symm
  · rintro rfl
    exact (isAscii_of_map_asciiSmall hds).lower_eq

end

end HostVitals.Text
