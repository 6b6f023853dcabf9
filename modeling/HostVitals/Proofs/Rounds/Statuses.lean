import HostVitals.Proofs.Report.FastBattery
import HostVitals.Proofs.Rounds.Charges
import HostVitals.Proofs.Text.Trimming

/-!
# The statuses of the batteries

A status is the word behind the charge in a line of the fast report, or the status text of a power
supply, and the unknown status when there is none.  So no status has a blank around it.  A status
text of a power supply is looked at once more when the blanks are off, so that a blank one gives the
unknown status as well.  The word in a line is not looked at when its semicolon is off, so that a
lone semicolon gives an empty status.

Main results:

- `statusWord_eq_some_iff`: which word of a line stands for the status.
- `status_batteries`, `status_toBattery`: the statuses are given by words and texts.
- `origin_of_ok`: where the batteries that were found come from.
- `statuses_read`: what the statuses of the batteries are, and when none is empty.
- `statuses_lone_mark`: a report may tell of a battery whose status is empty.
-/

namespace HostVitals

open HostVitals.Number HostVitals.Text

namespace Report

/-! ## Statuses in lines -/

/-- The word of a line that stands for the status: the one behind the charge. -/
def statusWord (line : List Char) : Option (List Char) :=
  match (words line).dropWhile (fun field => !hasPercent field) with
  | _ :: word :: _ => some word
  | _ => none

/-- The words of a report that stand for statuses, one for each line with a percent sign. -/
def statusWords (report : String) : List (Option (List Char)) :=
  ((lines report.toList).filter hasPercent).map statusWord

/-- The status that a word behind a charge gives. -/
def statusOfWord : Option (List Char) → String
  | none => unknownStatus
  | some word => String.ofList (dropMark ';' word)

/-- The status of a line is given by the word behind the charge. -/
theorem status_batteryOfLine (time : Option String) (power : PowerData) (line : List Char) :
    (batteryOfLine time power line).status = statusOfWord (statusWord line) := by
  unfold batteryOfLine chargeAndStatus statusWord
  rcases (words line).dropWhile (fun field => !hasPercent field) with _ | ⟨charge, _ | ⟨word, _⟩⟩
  · rfl
  · rfl
  · rfl

/-- The statuses of a report are given by its words. -/
theorem status_batteries (report : String) (power : PowerData) :
    (batteries report power).map Battery.status = (statusWords report).map statusOfWord := by
  simp only [batteries, statusWords, List.map_map]
  apply List.map_congr_left
  intro line _
  exact status_batteryOfLine _ power line

/-- The word stands directly behind the first field with a percent sign. -/
theorem statusWord_eq_some_iff {line word : List Char} :
    statusWord line = some word ↔ ∃ before charge after,
      words line = before ++ charge :: word :: after ∧ (∀ field ∈ before, '%' ∉ field) ∧
        '%' ∈ charge := by
  unfold statusWord
  constructor
  · intro h
    split at h
    · next charge behind after hfields =>
        cases h
        obtain ⟨before, hwords, hplain⟩ := dropWhile_plain_eq_cons_iff.1 hfields
        exact ⟨before, charge, after, hwords, hplain⟩
    · cases h
  · rintro ⟨before, charge, after, hwords, hplain⟩
    rw [dropWhile_plain_eq_cons_iff.2 ⟨before, hwords, hplain⟩]

theorem mem_words_of_statusWord {line word : List Char} (h : statusWord line = some word) :
    word ∈ words line := by
  obtain ⟨before, charge, after, hwords, -⟩ := statusWord_eq_some_iff.1 h
  simp [hwords]

theorem trimmed_unknownStatus : Trimmed unknownStatus.toList :=
  BlankFree.trimmed (by decide +kernel)

/-- The status of a line has no blank around it. -/
theorem trimmed_statusOfWord (line : List Char) :
    Trimmed (statusOfWord (statusWord line)).toList := by
  cases hword : statusWord line with
  | none => exact trimmed_unknownStatus
  | some word =>
      rw [statusOfWord, String.toList_ofList]
      exact ((blankFree_of_mem_words (mem_words_of_statusWord hword)).dropMark ';').trimmed

/-- The status of a line is empty exactly when there is a lone semicolon behind the charge. -/
theorem statusOfWord_eq_empty_iff (line : List Char) :
    statusOfWord (statusWord line) = "" ↔ statusWord line = some [';'] := by
  cases hword : statusWord line with
  | none => simp [statusOfWord, unknownStatus]
  | some word =>
      have hne : word ≠ [] := ne_nil_of_mem_words (mem_words_of_statusWord hword)
      rw [statusOfWord, Option.some_inj, ← String.toList_inj, String.toList_ofList,
        String.toList_empty, dropMark_eq_nil_iff, or_iff_right hne]

/-! ## Statuses of power supplies -/

theorem status_toBattery (supply : Supply) :
    supply.toBattery.status = statusOfText supply.status := rfl

/-- The status of a power supply has no blank around it. -/
theorem trimmed_statusOfText (text : Option String) : Trimmed (statusOfText text).toList := by
  unfold statusOfText
  dsimp only
  split
  · exact trimmed_unknownStatus
  · rw [String.toList_ofList]
    exact trimmed_trim _

/-- The status of a power supply is never empty. -/
theorem statusOfText_ne_empty (text : Option String) : statusOfText text ≠ "" := by
  unfold statusOfText
  dsimp only
  split
  · decide
  · next hfull =>
      rw [Ne, ← String.toList_inj, String.toList_ofList]
      simpa using hfull

end Report

/-! ## Statuses in answers -/

namespace Collect

open Report

variable {σ : Type}

/-- Batteries that were found come from a report that tells of them, or else from the power
supplies. -/
theorem origin_of_ok {station : Station σ} {session : Session σ} {found : List Battery}
    (h : (batteries station session).1 = .ok found) :
    let told := transcript (batteries station.watched) session
    (∃ report power, .report (.ok (.ok report)) ∈ told.exchanges ∧ TellsOfBattery report ∧
        found = Report.batteries report power) ∨
      ∃ entries, listsIn told.exchanges = [.ok entries] ∧
        found = entries.map Supply.toBattery := by
  intro told
  have hsound := sound_of_ok h
  by_cases htells : ∃ report, .report (.ok (.ok report)) ∈ told.exchanges ∧ TellsOfBattery report
  · obtain ⟨report, hreport, htells⟩ := htells
    obtain ⟨profile, -, hanswer, -⟩ := answer_of_report hsound hreport htells
    exact .inl ⟨report, _, hreport, htells, Except.ok.inj (h.symm.trans hanswer)⟩
  · obtain ⟨entries, hentries, hanswer, hnone⟩ := answer_of_supplies hsound
      (fun report hreport htells' => htells ⟨report, hreport, htells'⟩)
    have hne : entries ≠ [] := by
      intro hempty
      cases h.symm.trans (hnone.2 hempty)
    exact .inr ⟨entries, hentries, Except.ok.inj (h.symm.trans (hanswer hne))⟩

/-- No status of batteries that were found has a blank around it.  The statuses are given by the
words behind the charges of a report, or by the status texts of the power supplies, and in both
cases the unknown status stands in where there is none.  From power supplies none is empty; from a
report none is empty exactly when there is no lone semicolon among these words. -/
theorem statuses_read {station : Station σ} {session : Session σ} {found : List Battery}
    (h : (batteries station session).1 = .ok found) :
    let told := transcript (batteries station.watched) session
    (∀ battery ∈ found, Trimmed battery.status.toList) ∧
      ((∃ report, .report (.ok (.ok report)) ∈ told.exchanges ∧ TellsOfBattery report ∧
          found.map Battery.status = (statusWords report).map statusOfWord ∧
          ((∀ battery ∈ found, battery.status ≠ "") ↔ some [';'] ∉ statusWords report)) ∨
        ∃ entries, listsIn told.exchanges = [.ok entries] ∧
          found.map Battery.status = entries.map (fun supply => statusOfText supply.status) ∧
          ∀ battery ∈ found, battery.status ≠ "") := by
  intro told
  rcases origin_of_ok h with ⟨report, power, hreport, htells, rfl⟩ | ⟨entries, hentries, rfl⟩
  · have hstatuses := status_batteries report power
    have hforall : ∀ p : String → Prop,
        (∀ battery ∈ Report.batteries report power, p battery.status) ↔
          ∀ line ∈ (lines report.toList).filter hasPercent, p (statusOfWord (statusWord line)) := by
      intro p
      rw [← List.forall_mem_map, hstatuses, List.forall_mem_map, statusWords, List.forall_mem_map]
    refine ⟨(hforall (fun status => Trimmed status.toList)).2 fun line _ =>
      trimmed_statusOfWord line, .inl ⟨report, hreport, htells, hstatuses, ?_⟩⟩
    rw [hforall (fun status => status ≠ "")]
    simp only [ne_eq, statusOfWord_eq_empty_iff, statusWords, List.mem_map, not_exists, not_and]
  · have hstatuses : (entries.map Supply.toBattery).map Battery.status =
        entries.map (fun supply => statusOfText supply.status) := by
      rw [List.map_map]
      exact List.map_congr_left (fun supply _ => status_toBattery supply)
    refine ⟨?_, .inr ⟨entries, hentries, hstatuses, ?_⟩⟩
    · simp [status_toBattery, trimmed_statusOfText]
    · simp [status_toBattery, statusOfText_ne_empty]

/-- A prepared host with a given report. -/
def reportingHost (report : String) : Prepared where
  clock := 0
  drift := 0
  files := Files.emptyDirectory
  texts := [("report", [.ok (.ok report)])]
  supplies := []
  temperatures := []

/-- A status between other blanks, and a line that ends with the charge. -/
theorem statuses_read_spread :
    let station := Prepared.station (Prepared.platform "scripted" false) 30
    let session := Session.start
      (reportingHost " -InternalBattery-0 (id=1)\t40%;\u3000charging; \n -InternalBattery-1 12%\r")
    ∃ found, (batteries station session).1 = .ok found ∧
      found.map Battery.status = ["charging", "Unknown"] ∧
      ∀ battery ∈ found, Trimmed battery.status.toList := by
  intro station session
  have hanswered : (batteries station session).1.toOption.map (List.map Battery.status) =
      some ["charging", "Unknown"] := by
    decide +kernel
  obtain ⟨found, hfound, hstatuses⟩ := found_of_map hanswered
  exact ⟨found, hfound, hstatuses, (statuses_read hfound).1⟩

/-- A lone semicolon behind the charge gives an empty status. -/
theorem statuses_lone_mark :
    let station := Prepared.station (Prepared.platform "scripted" false) 30
    let session := Session.start (reportingHost " -InternalBattery-0 (id=1)\t80%; ; present: true")
    ∃ found, (batteries station session).1 = .ok found ∧
      ∃ battery ∈ found, battery.status = "" := by
  intro station session
  have hanswered : (batteries station session).1.toOption.map (List.map Battery.status) =
      some [""] := by
    decide +kernel
  obtain ⟨found, hfound, hstatuses⟩ := found_of_map hanswered
  have hempty : "" ∈ found.map Battery.status := by simp [hstatuses]
  exact ⟨found, hfound, List.mem_map.1 hempty⟩

end Collect

end HostVitals
