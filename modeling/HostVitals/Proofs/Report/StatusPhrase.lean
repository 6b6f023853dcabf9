import HostVitals.Proofs.Report.BatteryLine
import HostVitals.Proofs.Text.Lower

/-!
# Status phrases in fast reports

A power supply gives its status as a whole phrase.  The fast report is cut at blanks, so that only
the first word of a phrase becomes the status there.  Mostly this makes no difference for the class,
since the first word of a phrase of two words is recognised as well, with the same class.  One
phrase is an exception: `not` alone is not recognised, and so a battery that is not charging has no
class in a fast report.

Main results:

- `exists_phrase`: a status is recognised when its lower-case form is one of the phrases.
- `ofStatus_firstWord`: the class of the first word of a recognised phrase.
- `class_of_phrase`: the class that a fast report gives to a recognised phrase.
- `class_of_phrase_notCharging`: the exception in a line of its own.
-/

namespace HostVitals

open HostVitals.Number HostVitals.Text

/-! ## Recognised phrases -/

namespace ChargeState

/-- The phrase whose first word is not recognised. -/
def uncut : String := "not charging"

/-- The first word of each phrase has the class of the phrase, with one exception. -/
theorem lookup_firstWord :
    ∀ entry ∈ phrases,
      (phrases.lookup (String.ofList (firstWord entry.1.toList))).getD .unknown =
        if entry.1 = uncut then .unknown else entry.2 := by
  decide +kernel

/-- No first word of a phrase ends with a semicolon. -/
theorem getLast_firstWord :
    ∀ entry ∈ phrases, (firstWord entry.1.toList).getLast? ≠ some ';' := by
  decide +kernel

/-- A status is recognised when its lower-case form is one of the phrases. -/
theorem exists_phrase {status : String} (htrimmed : Trimmed status.toList)
    (h : ofStatus status ≠ .unknown) :
    ∃ entry ∈ phrases, lower status.toList = entry.1.toList ∧ ofStatus status = entry.2 := by
  unfold ofStatus at h ⊢
  dsimp only at h ⊢
  rw [htrimmed.trim_eq] at h ⊢
  cases hlookup : phrases.lookup (String.ofList (lower status.toList)) with
  | none =>
      rw [hlookup] at h
      exact absurd rfl h
  | some state =>
      obtain ⟨before, after, hsplit, -⟩ := List.lookup_eq_some_iff.1 hlookup
      refine ⟨(String.ofList (lower status.toList), state), ?_, ?_, rfl⟩
      · rw [hsplit]
        exact List.mem_append_right before List.mem_cons_self
      · rw [String.toList_ofList]

/-- The class of the first word of a recognised phrase is that of the phrase, with one exception. -/
theorem ofStatus_firstWord {status : String} (htrimmed : Trimmed status.toList)
    (h : ofStatus status ≠ .unknown) :
    ofStatus (String.ofList (firstWord status.toList)) =
      if lower status.toList = uncut.toList then .unknown else ofStatus status := by
  obtain ⟨entry, hentry, hlower, hclass⟩ := exists_phrase htrimmed h
  have hword : trim (firstWord status.toList) = firstWord status.toList :=
    (blankFree_firstWord status.toList).trimmed.trim_eq
  have huncut : entry.1.toList = uncut.toList ↔ entry.1 = uncut := String.toList_inj
  rw [hclass, hlower, ofStatus, String.toList_ofList, hword, ← firstWord_lower, hlower]
  simp only [lookup_firstWord entry hentry, huncut]

/-- The first word of a recognised phrase does not end with a semicolon. -/
theorem firstWord_unmarked {status : String} (htrimmed : Trimmed status.toList)
    (h : ofStatus status ≠ .unknown) : (firstWord status.toList).getLast? ≠ some ';' := by
  intro hlast
  obtain ⟨front, hfront⟩ := List.getLast?_eq_some_iff.1 hlast
  obtain ⟨entry, hentry, hlower, -⟩ := exists_phrase htrimmed h
  have hmark : lower [';'] = [';'] := by decide +kernel
  have hmarked : firstWord entry.1.toList = lower front ++ [';'] := by
    rw [← hlower, firstWord_lower, hfront, lower_append, hmark]
  exact getLast_firstWord entry hentry (by rw [hmarked, List.getLast?_concat])

end ChargeState

namespace Report

/-! ## Phrases in lines -/

/-- The field behind a charge holds the first word of the status that stands there. -/
theorem head_words_status {status : List Char} (hstarts : StartsPlain status)
    (hmark : (firstWord status).getLast? ≠ some ';') (after : List Char) :
    (words (status ++ ';' :: ' ' :: after)).head?.map
      (fun field => String.ofList (dropMark ';' field)) =
      some (String.ofList (firstWord status)) := by
  have hplain : BlankFree (firstWord status) := blankFree_firstWord status
  rcases firstWord_cases status with hall | ⟨c, rest, hc, hsplit⟩
  · -- A single word, which keeps its semicolon until the mark is dropped.
    have hmarked : BlankFree (status ++ [';']) := by
      rw [hall] at hplain
      exact hplain.append (by decide)
    have hjoin : status ++ ';' :: ' ' :: after = (status ++ [';']) ++ ' ' :: after := by simp
    rw [hjoin, words_word_blank (by decide) (by simp) hmarked, hall]
    simp [dropMark_append]
  · -- Several words: the first one ends at a blank and has no semicolon.
    have hword : firstWord status ≠ [] := by
      intro hempty
      rw [hempty, List.nil_append] at hsplit
      have hfirst : isBlank c = false := hstarts c (by rw [← hsplit]; rfl)
      rw [hc] at hfirst
      cases hfirst
    have hjoin : status ++ ';' :: ' ' :: after =
        firstWord status ++ c :: (rest ++ ';' :: ' ' :: after) := by
      rw [← List.cons_append, ← List.append_assoc, hsplit]
    rw [hjoin, words_word_blank hc hword hplain]
    simp [dropMark_eq_self hmark]

/-- A recognised phrase in a line of the fast report gives the battery the class that it gives to
that of a power supply, whatever the case of its letters and whatever stands around it in the line,
with one exception: `not charging` gives no class. -/
theorem class_of_phrase {before charge status after : String} (hpercent : '%' ∉ before.toList)
    (hcharge : BlankFree charge.toList)
    (hbreak : '\n' ∉ (before ++ " " ++ charge ++ "%; " ++ status ++ "; " ++ after).toList)
    (htrimmed : Trimmed status.toList) (h : ChargeState.ofStatus status ≠ .unknown)
    (power : PowerData) :
    ∃ battery,
      batteries (before ++ " " ++ charge ++ "%; " ++ status ++ "; " ++ after) power = [battery] ∧
      battery.chargeState = if lower status.toList = ChargeState.uncut.toList then .unknown
        else (batteryOfSupply charge (some status)).chargeState := by
  have hne : status ≠ "" := by
    rintro rfl
    exact h (by decide +kernel)
  have hline : (before ++ " " ++ charge ++ "%; " ++ status ++ "; " ++ after).toList =
      before.toList ++ ' ' :: (charge.toList ++ '%' :: ';' :: ' ' ::
        (status.toList ++ ';' :: ' ' :: after.toList)) := by
    simp
  obtain ⟨battery, hfound, -, hword⟩ := batteries_of_line hline hbreak hpercent hcharge power
  rw [head_words_status htrimmed.starts (ChargeState.firstWord_unmarked htrimmed h),
    Option.getD_some] at hword
  refine ⟨battery, hfound, ?_⟩
  rw [Battery.chargeState, hword, ChargeState.ofStatus_firstWord htrimmed h, Battery.chargeState,
    batteryOfSupply, statusOfText_trimmed hne htrimmed]

/-- A phrase of two words in mixed case keeps its class. -/
theorem class_of_phrase_finishing :
    let line := " -InternalBattery-0 (id=1)" ++ " " ++ "98" ++ "%; " ++ "Finishing CHARGE" ++ "; " ++
      "0:05 remaining present: true"
    ∃ battery, batteries line PowerData.none = [battery] ∧ battery.chargeState = .full := by
  intro line
  have hclass : (if lower "Finishing CHARGE".toList = ChargeState.uncut.toList then .unknown
      else (batteryOfSupply "98" (some "Finishing CHARGE")).chargeState) = ChargeState.full := by
    decide +kernel
  have htrimmed : Trimmed "Finishing CHARGE".toList := by
    have hsame : trim "Finishing CHARGE".toList = "Finishing CHARGE".toList := by decide +kernel
    rw [← hsame]
    exact trimmed_trim _
  have hknown : ChargeState.ofStatus "Finishing CHARGE" ≠ .unknown := by decide +kernel
  have hread : ∃ battery, batteries line PowerData.none = [battery] ∧ battery.chargeState = _ :=
    class_of_phrase (by decide +kernel) (by decide +kernel) (by decide +kernel) htrimmed hknown _
  obtain ⟨battery, hfound, hstate⟩ := hread
  exact ⟨battery, hfound, hstate.trans hclass⟩

/-- A battery that is not charging has no class in a fast report. -/
theorem class_of_phrase_notCharging :
    let line := " -InternalBattery-0 (id=1)" ++ " " ++ "80" ++ "%; " ++ "not charging" ++ "; " ++
      "(no estimate) present: true"
    (batteries line PowerData.none).map Battery.chargeState = [.unknown] ∧
      (batteryOfSupply "80" (some "not charging")).chargeState = .notCharging := by
  decide +kernel

end Report

end HostVitals
