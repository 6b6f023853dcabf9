import HostVitals.Platform.Scripted
import HostVitals.Proofs.Rounds.Batteries

/-!
# The charges of the batteries

A charge is a percentage of the capacity.  It is read as a number from a text, of the fast report or
of a power supply, and is zero when the text is no number; nothing looks at whether the number is a
percentage.  So the charges are percentages exactly when the texts that are numbers give
percentages.

Main results:

- `percent_batteries`, `percent_toBattery`: the charges are read from texts.
- `charges_read`: where the charges of the batteries come from, and when they are percentages.
- `charges_overfull`: a report may tell of batteries whose charges are no percentages.
-/

namespace HostVitals

open HostVitals.Number HostVitals.Text

/-- A percentage is a finite number from zero to a hundred. -/
def IsPercentage (x : Binary64) : Prop :=
  x.isFinite = true ∧ Binary64.zero.le x = true ∧ x.le (.ofInt 100) = true

instance : DecidablePred IsPercentage := fun x =>
  inferInstanceAs (Decidable (x.isFinite = true ∧ Binary64.zero.le x = true ∧ _))

/-- Zero is a percentage. -/
theorem isPercentage_zero : IsPercentage .zero := by decide +kernel

/-! ## Charges in texts -/

/-- The charge that a text gives, zero when it is no number. -/
def chargeIn (text : List Char) : Binary64 :=
  (readNumber text).getD .zero

/-- A text gives a percentage exactly when it is no number but one. -/
theorem isPercentage_chargeIn_iff (text : List Char) :
    IsPercentage (chargeIn text) ↔ ∀ x, readNumber text = some x → IsPercentage x := by
  unfold chargeIn
  cases h : readNumber text with
  | none => simpa using isPercentage_zero
  | some x => simp

/-- Charges that are read from texts are percentages exactly when the numbers in the texts are. -/
theorem isPercentage_percents_iff {found : List Battery} {texts : List (List Char)}
    (h : found.map Battery.percent = texts.map chargeIn) :
    (∀ battery ∈ found, IsPercentage battery.percent) ↔
      ∀ text ∈ texts, ∀ x, readNumber text = some x → IsPercentage x := by
  calc (∀ battery ∈ found, IsPercentage battery.percent)
    _ ↔ ∀ charge ∈ found.map Battery.percent, IsPercentage charge := by simp
    _ ↔ ∀ charge ∈ texts.map chargeIn, IsPercentage charge := by rw [h]
    _ ↔ ∀ text ∈ texts, IsPercentage (chargeIn text) := by simp
    _ ↔ _ := by simp only [isPercentage_chargeIn_iff]

namespace Report

/-- The text of the charge in a line: its first field with a percent sign, without the marks. -/
def chargeText (line : List Char) : List Char :=
  match (words line).dropWhile (fun field => !hasPercent field) with
  | charge :: _ => dropMark '%' (dropSeparator charge)
  | [] => []

/-- The texts of the charges in a report, one for each line with a percent sign. -/
def chargeTexts (report : String) : List (List Char) :=
  ((lines report.toList).filter hasPercent).map chargeText

/-- The charge of a line is read from its text. -/
theorem percent_batteryOfLine (time : Option String) (power : PowerData) (line : List Char) :
    (batteryOfLine time power line).percent = chargeIn (chargeText line) := by
  unfold batteryOfLine chargeAndStatus chargeText
  rcases (words line).dropWhile (fun field => !hasPercent field) with _ | ⟨charge, _ | ⟨status, _⟩⟩
  · rfl
  · rfl
  · rfl

/-- The charges of a report are read from its texts. -/
theorem percent_batteries (report : String) (power : PowerData) :
    (batteries report power).map Battery.percent = (chargeTexts report).map chargeIn := by
  simp only [batteries, chargeTexts, List.map_map]
  apply List.map_congr_left
  intro line _
  exact percent_batteryOfLine _ power line

/-- The text of the charge of a power supply. -/
def Supply.chargeText (supply : Supply) : List Char :=
  trim supply.capacity.toList

theorem percent_toBattery (supply : Supply) :
    supply.toBattery.percent = chargeIn supply.chargeText := rfl

end Report

/-! ## Charges in answers -/

namespace Collect

open Report

variable {σ : Type}

/-- Batteries that were found come from a search without a breakdown. -/
theorem sound_of_ok {station : Station σ} {session : Session σ} {found : List Battery}
    (h : (batteries station session).1 = .ok found) :
    (transcript (batteries station.watched) session).Sound := by
  intro exchange hexchange
  cases hbroken : exchange.breakdown with
  | none => rfl
  | some breakdown =>
      have hanswer := batteries_of_broken hexchange hbroken
      rw [h] at hanswer
      cases hanswer

/-- The charges of batteries that were found are read from the texts of a report, or from those of
the power supplies, whatever numbers these may be.  So they are percentages exactly when each text
that is a number gives one. -/
theorem charges_read {station : Station σ} {session : Session σ} {found : List Battery}
    (h : (batteries station session).1 = .ok found) :
    let told := transcript (batteries station.watched) session
    ∃ texts : List (List Char),
      ((∃ report, .report (.ok (.ok report)) ∈ told.exchanges ∧ TellsOfBattery report ∧
          texts = chargeTexts report) ∨
        ∃ entries, listsIn told.exchanges = [.ok entries] ∧
          texts = entries.map Supply.chargeText) ∧
      found.map Battery.percent = texts.map chargeIn ∧
      ((∀ battery ∈ found, IsPercentage battery.percent) ↔
        ∀ text ∈ texts, ∀ x, readNumber text = some x → IsPercentage x) := by
  intro told
  have hsound := sound_of_ok h
  by_cases htells : ∃ report, .report (.ok (.ok report)) ∈ told.exchanges ∧ TellsOfBattery report
  · obtain ⟨report, hreport, htells⟩ := htells
    obtain ⟨profile, -, hanswer, -⟩ := answer_of_report hsound hreport htells
    have hfound : found = Report.batteries report (Report.powerData profile) :=
      Except.ok.inj (h.symm.trans hanswer)
    have hcharges : found.map Battery.percent = (chargeTexts report).map chargeIn := by
      rw [hfound, percent_batteries]
    exact ⟨_, .inl ⟨report, hreport, htells, rfl⟩, hcharges, isPercentage_percents_iff hcharges⟩
  · obtain ⟨entries, hentries, hanswer, hnone⟩ := answer_of_supplies hsound
      (fun report hreport htells' => htells ⟨report, hreport, htells'⟩)
    have hne : entries ≠ [] := by
      intro hempty
      cases h.symm.trans (hnone.2 hempty)
    have hfound : found = entries.map Supply.toBattery :=
      Except.ok.inj (h.symm.trans (hanswer hne))
    have hcharges : found.map Battery.percent = (entries.map Supply.chargeText).map chargeIn := by
      rw [hfound, List.map_map, List.map_map]
      exact List.map_congr_left (fun supply _ => percent_toBattery supply)
    exact ⟨_, .inr ⟨entries, hentries, rfl⟩, hcharges, isPercentage_percents_iff hcharges⟩

/-- Batteries of which something is known were found. -/
theorem found_of_map {β : Type} {f : Battery → β} {answer : Answer (List Battery)} {values : List β}
    (h : answer.toOption.map (List.map f) = some values) :
    ∃ found, answer = .ok found ∧ found.map f = values := by
  cases answer with
  | error failure => cases h
  | ok found => exact ⟨found, rfl, Option.some.inj h⟩

/-- A prepared host with one power supply, and a capacity text with blanks around it. -/
def suppliedHost : Prepared where
  clock := 0
  drift := 0
  files := Files.emptyDirectory
  texts := []
  supplies := [.ok (.ok [⟨"BAT0", " 87\n", none⟩])]
  temperatures := []

/-- The charge of that power supply is a percentage, and so is the number in its text. -/
theorem charges_read_supplied :
    let station := Prepared.station (Prepared.platform "scripted" false) 30
    let session := Session.start suppliedHost
    ∃ found, (batteries station session).1 = .ok found ∧
      ∃ texts : List (List Char), found.map Battery.percent = texts.map chargeIn ∧
        ∀ text ∈ texts, ∀ x, readNumber text = some x → IsPercentage x := by
  intro station session
  have hanswered : (batteries station session).1.toOption.map (List.map Battery.percent) =
      some [.ofInt 87] := by
    decide +kernel
  obtain ⟨found, hfound, hpercents⟩ := found_of_map hanswered
  obtain ⟨texts, -, hcharges, hpercentages⟩ := charges_read hfound
  have hpercentage : ∀ charge ∈ found.map Battery.percent, IsPercentage charge := by
    rw [hpercents]
    decide +kernel
  exact ⟨found, hfound, texts, hcharges, hpercentages.1 (List.forall_mem_map.1 hpercentage)⟩

/-- A prepared host whose report has two charges that are no percentages. -/
def overfullHost : Prepared where
  clock := 0
  drift := 0
  files := Files.emptyDirectory
  texts := [("report", [.ok (.ok (" -InternalBattery-0 (id=1)\t150%; charging\n" ++
    " -InternalBattery-1 (id=2)\tnan%; charging"))])]
  supplies := []
  temperatures := []

/-- Such charges are given as they are. -/
theorem charges_overfull :
    let station := Prepared.station (Prepared.platform "scripted" false) 30
    let session := Session.start overfullHost
    ∃ found, (batteries station session).1 = .ok found ∧
      found.map Battery.percent = [.ofInt 150, .nan] ∧
      ∀ battery ∈ found, ¬IsPercentage battery.percent := by
  intro station session
  have hanswered : (batteries station session).1.toOption.map (List.map Battery.percent) =
      some [.ofInt 150, .nan] := by
    decide +kernel
  obtain ⟨found, hfound, hpercents⟩ := found_of_map hanswered
  have hnone : ∀ charge ∈ found.map Battery.percent, ¬IsPercentage charge := by
    rw [hpercents]
    decide +kernel
  refine ⟨found, hfound, hpercents, ?_⟩
  intro battery hbattery
  exact hnone _ (List.mem_map_of_mem hbattery)

end Collect

end HostVitals
