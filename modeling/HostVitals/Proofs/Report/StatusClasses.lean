import HostVitals.Proofs.Report.StatusPhrase
import HostVitals.Proofs.Text.Letters

/-!
# Which statuses are recognised

A status is taken to lower case by the rules for all of Unicode, and then looked up.  Since all the
phrases are in ASCII and none of them has a `k`, no character beyond ASCII can take part in one, and
the case of letters is ignored in ASCII only.

Main results:

- `ofStatus_eq_iff`: the statuses of a class.
- `chargeState_by_phrase`: exactly which statuses are recognised, and as what.
-/

namespace HostVitals

open HostVitals.Number HostVitals.Text

namespace ChargeState

/-! ## Phrases -/

/-- The phrases are written in small ASCII letters, without `k`. -/
theorem phrases_small :
    ∀ entry ∈ phrases, IsAscii entry.1.toList ∧ 'k' ∉ entry.1.toList ∧
      entry.1.toList.map asciiSmall = entry.1.toList := by
  decide +kernel

/-- Each phrase is found with its own class, which is a known one. -/
theorem lookup_phrase :
    ∀ entry ∈ phrases, phrases.lookup entry.1 = some entry.2 ∧ entry.2 ≠ .unknown := by
  decide +kernel

/-- Of a phrase a text may have any ASCII letter in the other case, and nothing else. -/
theorem lower_eq_phrase_iff {entry : String × ChargeState} (hentry : entry ∈ phrases)
    (text : List Char) : lower text = entry.1.toList ↔ SameButCase text entry.1.toList := by
  obtain ⟨hascii, hk, hsmall⟩ := phrases_small entry hentry
  rw [lower_eq_iff hascii hk, SameButCase, hsmall]

/-! ## Classes -/

section

variable {status : String}

/-- Blanks around a status make no difference. -/
theorem ofStatus_trim (status : String) :
    ofStatus (String.ofList (trim status.toList)) = ofStatus status := by
  unfold ofStatus
  rw [String.toList_ofList, (trimmed_trim status.toList).trim_eq]

/-- A status that is a phrase but for blanks around it and for the case of its letters has the class
of the phrase. -/
theorem ofStatus_of_phrase {entry : String × ChargeState} (hentry : entry ∈ phrases)
    (h : SameButCase (trim status.toList) entry.1.toList) : ofStatus status = entry.2 := by
  unfold ofStatus
  dsimp only
  rw [(lower_eq_phrase_iff hentry _).2 h, String.ofList_toList, (lookup_phrase entry hentry).1]
  rfl

/-- A status of a known class is one of the phrases of that class. -/
theorem phrase_of_ofStatus (h : ofStatus status ≠ .unknown) :
    ∃ entry ∈ phrases, SameButCase (trim status.toList) entry.1.toList ∧
      ofStatus status = entry.2 := by
  have htrimmed : Trimmed (String.ofList (trim status.toList)).toList := by
    rw [String.toList_ofList]
    exact trimmed_trim status.toList
  rw [← ofStatus_trim] at h ⊢
  obtain ⟨entry, hentry, hlower, hclass⟩ := exists_phrase htrimmed h
  rw [String.toList_ofList] at hlower
  exact ⟨entry, hentry, (lower_eq_phrase_iff hentry _).1 hlower, hclass⟩

theorem ofStatus_ne_unknown_iff :
    ofStatus status ≠ .unknown ↔
      ∃ entry ∈ phrases, SameButCase (trim status.toList) entry.1.toList := by
  constructor
  · intro hknown
    obtain ⟨entry, hentry, hsame, -⟩ := phrase_of_ofStatus hknown
    exact ⟨entry, hentry, hsame⟩
  · rintro ⟨entry, hentry, hsame⟩
    rw [ofStatus_of_phrase hentry hsame]
    exact (lookup_phrase entry hentry).2

/-- The statuses of a known class are its phrases. -/
theorem ofStatus_eq_iff {state : ChargeState} (hstate : state ≠ .unknown) :
    ofStatus status = state ↔
      ∃ entry ∈ phrases, entry.2 = state ∧ SameButCase (trim status.toList) entry.1.toList := by
  constructor
  · rintro rfl
    obtain ⟨entry, hentry, hsame, hclass⟩ := phrase_of_ofStatus hstate
    exact ⟨entry, hentry, hclass.symm, hsame⟩
  · rintro ⟨entry, hentry, rfl, hsame⟩
    exact ofStatus_of_phrase hentry hsame

/-- Nothing beyond ASCII is left between the blanks around a recognised status. -/
theorem isAscii_of_ofStatus (h : ofStatus status ≠ .unknown) : IsAscii (trim status.toList) := by
  obtain ⟨entry, hentry, hsame, -⟩ := phrase_of_ofStatus h
  obtain ⟨hascii, -, hsmall⟩ := phrases_small entry hentry
  apply isAscii_of_map_asciiSmall
  rw [hsame, hsmall]
  exact hascii

end

end ChargeState

/-- A status is recognised exactly when it is one of the phrases, but for Unicode blanks around it
and for the case of ASCII letters, and it has the class of that phrase.  So no status with a
character beyond ASCII between the blanks is recognised, although the lower-case form is that of
Unicode. -/
theorem chargeState_by_phrase (battery : Battery) :
    let text := trim battery.status.toList
    (battery.chargeState ≠ .unknown ↔
      ∃ entry ∈ ChargeState.phrases, SameButCase text entry.1.toList) ∧
    (battery.chargeState = .charging ↔ SameButCase text "charging".toList) ∧
    (battery.chargeState = .discharging ↔ SameButCase text "discharging".toList) ∧
    (battery.chargeState = .full ↔
      ∃ phrase ∈ ["charged", "full", "finishing charge", "finishing"],
        SameButCase text phrase.toList) ∧
    (battery.chargeState = .notCharging ↔
      ∃ phrase ∈ ["not charging", "ac attached", "ac"], SameButCase text phrase.toList) ∧
    (battery.chargeState ≠ .unknown → IsAscii text) := by
  intro text
  unfold Battery.chargeState
  refine ⟨ChargeState.ofStatus_ne_unknown_iff, ?_, ?_, ?_, ?_, ChargeState.isAscii_of_ofStatus⟩
  · rw [ChargeState.ofStatus_eq_iff (by decide)]
    simp [ChargeState.phrases, text]
  · rw [ChargeState.ofStatus_eq_iff (by decide)]
    simp [ChargeState.phrases, text]
  · rw [ChargeState.ofStatus_eq_iff (by decide)]
    simp [ChargeState.phrases, text]
  · rw [ChargeState.ofStatus_eq_iff (by decide)]
    simp [ChargeState.phrases, text]

/-- A phrase in mixed case between blanks of Unicode, and the same with a dotted capital I. -/
theorem chargeState_by_phrase_mixed :
    let battery : Battery := ⟨.zero, "\u3000Finishing CHARGE\u00A0\r\n", none, none, 0⟩
    let dotted : Battery := ⟨.zero, "F\u0130nishing CHARGE", none, none, 0⟩
    battery.chargeState = .full ∧ IsAscii (trim battery.status.toList) ∧
      dotted.chargeState = .unknown := by
  intro battery dotted
  obtain ⟨-, -, -, hfull, -, hascii⟩ := chargeState_by_phrase battery
  have hclass : battery.chargeState = .full := hfull.2 (by decide +kernel)
  have hknown : battery.chargeState ≠ .unknown := by
    rw [hclass]
    decide
  refine ⟨hclass, hascii hknown, ?_⟩
  by_cases hdotted : dotted.chargeState = .unknown
  · exact hdotted
  · obtain ⟨-, -, -, -, -, hplain⟩ := chargeState_by_phrase dotted
    exact absurd (hplain hdotted) (by decide +kernel)

end HostVitals
