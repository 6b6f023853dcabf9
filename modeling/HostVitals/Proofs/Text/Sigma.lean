import HostVitals.Battery
import HostVitals.Proofs.Text.Lower
import HostVitals.Report.PowerProfile

/-!
# Sigmas at the ends of words

At the end of a word a capital sigma has a small form of its own, so that the lower-case form of a
text depends on where its words end.  The phrases that are looked for have no sigma in them.  So
nothing that is found depends on where words are taken to end, and the lower-case form that takes
each character by itself finds the same.

Main results:

- `lowerBehind_eq_iff`, `infix_lowerBehind_iff`: without sigmas, what a lower-case form is and what
  stands in it does not depend on the ends of words.
- `mentions_eq_lowerBehind`, `ofStatus_eq_lowerBehind`: so it is for the phrases in a line and for
  the class of a status.
-/

namespace HostVitals

open Text Report

namespace Text

/-- The capital sigma. -/
def capitalSigma : Char := Char.ofNat 0x3A3

/-- The small sigma within a word. -/
def smallSigma : Char := Char.ofNat 0x3C3

/-- The small sigma at the end of a word. -/
def finalSigma : Char := Char.ofNat 0x3C2

/-- The lower-case form of a text behind another one, which is given backwards.  Whether a word ends
with a capital sigma is told by `ends` from what stands before it and behind it. -/
def lowerBehind (ends : List Char → List Char → Bool) (before : List Char) :
    List Char → List Char
  | [] => []
  | c :: cs =>
    (if c = capitalSigma ∧ ends before cs = true then [finalSigma] else lowerChar c) ++
      lowerBehind ends (c :: before) cs

/-- The text has no small sigma. -/
def SigmaFree (cs : List Char) : Prop :=
  ∀ c ∈ cs, c ≠ smallSigma ∧ c ≠ finalSigma

instance : DecidablePred SigmaFree := fun cs =>
  decidable_of_iff (cs.all (fun c => c != smallSigma && c != finalSigma) = true) (by
    simp [SigmaFree])

/-- The character with the two small sigmas made one. -/
def oneSigma (c : Char) : Char :=
  if c = finalSigma then smallSigma else c

/-! ## One sigma -/

theorem lowerChar_capitalSigma : lowerChar capitalSigma = [smallSigma] := by
  decide +kernel

/-- With the two sigmas made one, the ends of words do not matter. -/
theorem map_oneSigma_lowerBehind (ends : List Char → List Char → Bool) (before cs : List Char) :
    (lowerBehind ends before cs).map oneSigma = (lower cs).map oneSigma := by
  induction cs generalizing before with
  | nil => rfl
  | cons c cs ih =>
      have hchar : (if c = capitalSigma ∧ ends before cs = true then [finalSigma]
          else lowerChar c).map oneSigma = (lowerChar c).map oneSigma := by
        split
        · next hfinal =>
          rw [hfinal.1, lowerChar_capitalSigma]
          decide
        · rfl
      have hlower : lower (c :: cs) = lowerChar c ++ lower cs := rfl
      rw [lowerBehind, hlower, List.map_append, List.map_append, hchar, ih]

section

variable {ds : List Char} (h : SigmaFree ds)

include h

theorem oneSigma_of_mem {c : Char} (hc : c ∈ ds) : oneSigma c = c :=
  if_neg (h c hc).2

/-- No other character becomes one of the text. -/
theorem oneSigma_of_oneSigma_mem {c : Char} (hc : oneSigma c ∈ ds) : oneSigma c = c := by
  unfold oneSigma at hc ⊢
  split at hc
  · exact absurd rfl (h _ hc).1
  · next hother => exact if_neg hother

/-- A text without sigmas comes only from itself when the two sigmas are made one. -/
theorem map_oneSigma_eq_iff {cs : List Char} : cs.map oneSigma = ds ↔ cs = ds := by
  constructor
  · rintro rfl
    have hown : ∀ c ∈ cs, oneSigma c = c :=
      fun c hc => oneSigma_of_oneSigma_mem h (List.mem_map_of_mem hc)
    exact ((List.map_congr_left hown).trans (List.map_id cs)).symm
  · rintro rfl
    exact (List.map_congr_left fun c hc => oneSigma_of_mem h hc).trans (List.map_id cs)

/-- It stands in the same texts before and after. -/
theorem infix_map_oneSigma_iff {cs : List Char} : ds <:+: cs.map oneSigma ↔ ds <:+: cs := by
  constructor
  · rintro ⟨before, behind, hcut⟩
    obtain ⟨front, rest, rfl, hfront, -⟩ := List.map_eq_append_iff.1 hcut.symm
    obtain ⟨start, middle, rfl, -, hmiddle⟩ := List.map_eq_append_iff.1 hfront
    rw [← (map_oneSigma_eq_iff h).1 hmiddle]
    exact ⟨start, rest, rfl⟩
  · rintro ⟨before, behind, rfl⟩
    rw [List.map_append, List.map_append, (map_oneSigma_eq_iff h).2 rfl]
    exact ⟨_, _, rfl⟩

/-! ## Ends of words -/

/-- Whether a lower-case form is a given text without sigmas does not depend on the ends of
words. -/
theorem lowerBehind_eq_iff (ends : List Char → List Char → Bool) (before cs : List Char) :
    lowerBehind ends before cs = ds ↔ lower cs = ds := by
  rw [← map_oneSigma_eq_iff h, map_oneSigma_lowerBehind, map_oneSigma_eq_iff h]

/-- Whether a text without sigmas stands in a lower-case form does not depend on the ends of
words. -/
theorem infix_lowerBehind_iff (ends : List Char → List Char → Bool) (before cs : List Char) :
    ds <:+: lowerBehind ends before cs ↔ ds <:+: lower cs := by
  rw [← infix_map_oneSigma_iff h, map_oneSigma_lowerBehind, infix_map_oneSigma_iff h]

end

end Text

/-! ## What is looked for -/

/-- A phrase is found in a line wherever words are taken to end. -/
theorem Report.mentions_eq_lowerBehind (ends : List Char → List Char → Bool) {phrase : String}
    (h : SigmaFree phrase.toList) (line : List Char) :
    mentions phrase line = contains phrase.toList (lowerBehind ends [] line) := by
  rw [Bool.eq_iff_iff, mentions, contains_eq_true_iff, contains_eq_true_iff]
  have hinfix := (infix_lowerBehind_iff h ends [] line).symm
  simpa only [List.IsInfix, eq_comm] using hinfix

/-- Two keys that agree with the same entries find the same. -/
theorem lookup_congr {α : Type} {entries : List (String × α)} {first second : String}
    (h : ∀ entry ∈ entries, (first == entry.1) = (second == entry.1)) :
    entries.lookup first = entries.lookup second := by
  induction entries with
  | nil => rfl
  | cons entry entries ih =>
      rw [List.lookup_cons, List.lookup_cons, h entry List.mem_cons_self,
        ih fun other hother => h other (List.mem_cons_of_mem _ hother)]

/-- The class of a status is the same wherever words are taken to end. -/
theorem ChargeState.ofStatus_eq_lowerBehind (ends : List Char → List Char → Bool)
    (status : String) :
    ofStatus status =
      (phrases.lookup
        (String.ofList (lowerBehind ends [] (trim status.toList)))).getD .unknown := by
  have hfree : ∀ entry ∈ phrases, SigmaFree entry.1.toList := by decide +kernel
  have hkeys : ∀ entry ∈ phrases,
      (String.ofList (lower (trim status.toList)) == entry.1) =
        (String.ofList (lowerBehind ends [] (trim status.toList)) == entry.1) := by
    intro entry hentry
    have hends := lowerBehind_eq_iff (hfree entry hentry) ends [] (trim status.toList)
    rw [Bool.eq_iff_iff, beq_iff_eq, beq_iff_eq, ← String.toList_inj, ← String.toList_inj,
      String.toList_ofList, String.toList_ofList, hends]
  exact congrArg (fun found => found.getD .unknown) (lookup_congr hkeys)

end HostVitals
