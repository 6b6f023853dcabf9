import Mathlib.Data.List.Forall2
import HostVitals.Proofs.Text.Words
import HostVitals.Report.FastBattery

/-!
# Fast battery reports, line by line

A fast report is read by its rows: each row with a percent sign gives a battery, and the time left
comes from the last row that gives one.  Since the rows of two texts joined by a line feed are those
of both, so are the batteries, except that all of them share the time left of the whole report.
Lines without a percent sign and without the word `remaining` give nothing, wherever they stand.

Main results:

- `batteries_eq_rows`, `timeLeft_eq_rows`: the report is read by its rows.
- `batteries_append_newline`: the batteries of two reports joined by a line feed.
- `batteries_by_lines`: what each battery tells of its line, and how joining reports, and lines that
  give nothing, bear on the batteries.
-/

namespace HostVitals.Report

open HostVitals.Number HostVitals.Text

/-! ## Rows with a percent sign -/

theorem hasPercent_iff {cs : List Char} : hasPercent cs = true ↔ '%' ∈ cs := by
  simp [hasPercent]

/-- A percent sign stands in a line exactly when it stands in one of its words. -/
theorem any_hasPercent_words (line : List Char) :
    (words line).any hasPercent = hasPercent line := by
  have hplain : isBlank '%' = false := by decide
  rw [Bool.eq_iff_iff, List.any_eq_true, hasPercent_iff]
  simp only [hasPercent_iff, exists_mem_words_iff, hplain, and_true]

/-- The battery that the words of a line tell of. -/
def batteryOfRow (timeLeft : Option String) (power : PowerData) (row : List (List Char)) :
    Battery :=
  let (percent, status) := chargeAndStatus row
  { percent, status, timeLeft, health := power.health, cycleCount := power.cycles }

/-- The rows with a percent sign are those of the lines with a percent sign. -/
theorem filter_rows (report : List Char) :
    (rows report).filter (fun row => row.any hasPercent) =
      ((lines report).filter hasPercent).map words := by
  -- A row with a percent sign is not empty, so that it is not left out.
  have hkept : ∀ line,
      ((words line).any hasPercent && !(words line).isEmpty) = hasPercent line := by
    intro line
    rw [← any_hasPercent_words line]
    cases words line with
    | nil => rfl
    | cons word row => simp
  rw [rows, List.filter_filter, List.filter_map]
  exact congrArg _ (List.filter_congr (fun line _ => hkept line))

/-- Each row with a percent sign gives a battery. -/
theorem batteries_eq_rows (report : String) (power : PowerData) :
    batteries report power = ((rows report.toList).filter (fun row => row.any hasPercent)).map
      (batteryOfRow ((timeLeft report.toList).map String.ofList) power) := by
  rw [filter_rows, List.map_map]
  rfl

/-! ## The time left -/

/-- Only `remaining` makes a row give a time. -/
theorem wordBefore_eq_none {row : List (List Char)} (h : remaining ∉ row) :
    wordBefore row = none := by
  cases row with
  | nil => rfl
  | cons word row => exact wordBefore_none (fun hmem => h (List.mem_cons_of_mem word hmem)) word

/-- The last line that gives a time decides. -/
theorem foldl_laterTime_eq (ls : List (List Char)) :
    ls.foldl laterTime none = ls.reverse.findSome? (fun line => wordBefore (words line)) := by
  induction ls with
  | nil => rfl
  | cons line ls ih =>
      rw [List.foldl_cons, foldl_laterTime, ih, List.reverse_cons, List.findSome?_append]
      simp [laterTime]

/-- The last row that gives a time decides. -/
theorem timeLeft_eq_rows (report : List Char) :
    timeLeft report = (rows report).reverse.findSome? wordBefore := by
  -- Lines without words give no time, so that leaving them out changes nothing.
  have hskip : ∀ ls : List (List Char), ls.findSome? (fun line => wordBefore (words line)) =
      ((ls.map words).filter (fun row => !row.isEmpty)).findSome? wordBefore := by
    intro ls
    induction ls with
    | nil => rfl
    | cons line ls ih =>
        rw [List.findSome?_cons, ih, List.map_cons]
        cases words line with
        | nil => rfl
        | cons word row => rfl
  rw [timeLeft, foldl_laterTime_eq, hskip, rows, List.map_reverse, List.filter_reverse]

/-- The time left of two reports joined by a line feed is that of the second, or else that of the
first. -/
theorem timeLeft_append_newline (as bs : List Char) :
    timeLeft (as ++ '\n' :: bs) = (timeLeft bs).or (timeLeft as) := by
  rw [timeLeft_eq_rows, rows_append_newline, List.reverse_append, List.findSome?_append,
    ← timeLeft_eq_rows, ← timeLeft_eq_rows]

/-! ## Joined reports -/

/-- The battery with another time left. -/
def withTimeLeft (time : Option String) (battery : Battery) : Battery :=
  { battery with timeLeft := time }

theorem map_withTimeLeft (time : Option String) (power : PowerData) (report : String) :
    (batteries report power).map (withTimeLeft time) =
      ((rows report.toList).filter (fun row => row.any hasPercent)).map
        (batteryOfRow time power) := by
  rw [batteries_eq_rows, List.map_map]
  rfl

/-- All batteries of a report have its time left. -/
theorem map_withTimeLeft_self (power : PowerData) (report : String) :
    (batteries report power).map (withTimeLeft ((timeLeft report.toList).map String.ofList)) =
      batteries report power := by
  rw [map_withTimeLeft, ← batteries_eq_rows]

/-- The batteries of two reports joined by a line feed are those of the first and then those of the
second, up to the time left that they share. -/
theorem batteries_append_newline (a b : String) (power : PowerData) :
    batteries (a ++ "\n" ++ b) power = (batteries a power ++ batteries b power).map
      (withTimeLeft (((timeLeft b.toList).or (timeLeft a.toList)).map String.ofList)) := by
  rw [batteries_eq_rows, toList_append_newline, timeLeft_append_newline, rows_append_newline,
    List.filter_append, List.map_append, List.map_append, map_withTimeLeft, map_withTimeLeft]

/-! ## Lines that give nothing -/

/-- A text without the word `remaining` gives no time. -/
theorem timeLeft_eq_none {cs : List Char} (h : remaining ∉ words cs) : timeLeft cs = none := by
  rw [timeLeft_eq_rows, List.findSome?_eq_none_iff]
  intro row hrow
  refine wordBefore_eq_none (fun hmem => h ?_)
  rw [← flatten_rows]
  exact List.mem_flatten.2 ⟨row, List.mem_reverse.1 hrow, hmem⟩

/-- A text without a percent sign gives no battery. -/
theorem batteries_eq_nil {report : String} (h : '%' ∉ report.toList) (power : PowerData) :
    batteries report power = [] := by
  rw [batteries_eq_rows, List.map_eq_nil_iff, List.filter_eq_nil_iff]
  intro row hrow hpercent
  obtain ⟨word, hword, hmark⟩ := List.any_eq_true.1 hpercent
  have hmem : word ∈ words report.toList := by
    rw [← flatten_rows]
    exact List.mem_flatten.2 ⟨row, hrow, hword⟩
  exact h (exists_mem_words_iff.1 ⟨word, hmem, hasPercent_iff.1 hmark⟩).1

section

variable {m : String} (hpercent : '%' ∉ m.toList) (hremaining : remaining ∉ words m.toList)
include hpercent hremaining

/-- Lines that give nothing change nothing in front of a report. -/
theorem batteries_after (b : String) (power : PowerData) :
    batteries (m ++ "\n" ++ b) power = batteries b power := by
  rw [batteries_append_newline, batteries_eq_nil hpercent, timeLeft_eq_none hremaining,
    Option.or_none, List.nil_append, map_withTimeLeft_self]

/-- Nor do they behind it. -/
theorem batteries_before (a : String) (power : PowerData) :
    batteries (a ++ "\n" ++ m) power = batteries a power := by
  rw [batteries_append_newline, batteries_eq_nil hpercent, timeLeft_eq_none hremaining,
    Option.none_or, List.append_nil, map_withTimeLeft_self]

/-- Nor do they between its lines. -/
theorem batteries_around (a b : String) (power : PowerData) :
    batteries (a ++ "\n" ++ m ++ "\n" ++ b) power = batteries (a ++ "\n" ++ b) power := by
  have htime : timeLeft (a ++ "\n" ++ m).toList = timeLeft a.toList := by
    rw [toList_append_newline, timeLeft_append_newline, timeLeft_eq_none hremaining,
      Option.none_or]
  rw [batteries_append_newline, batteries_before hpercent hremaining, htime,
    ← batteries_append_newline]

end

/-! ## Batteries and their lines -/

/-- The battery is read from a line: its charge is the number in the first field with a percent
sign, without the marks behind it, and its status is the field after that one. -/
def ReadFrom (line : List Char) (battery : Battery) : Prop :=
  ∃ before charge after,
    words line = before ++ charge :: after ∧ (∀ field ∈ before, '%' ∉ field) ∧ '%' ∈ charge ∧
    battery.percent = (readNumber (dropMark '%' (dropMark ';' charge))).getD .zero ∧
    battery.status =
      (after.head?.map (fun field => String.ofList (dropMark ';' field))).getD "Unknown"

/-- Skipping the fields without a percent sign leads to the first one that has it. -/
theorem dropWhile_plain_eq_cons_iff {fields after : List (List Char)} {charge : List Char} :
    fields.dropWhile (fun field => !hasPercent field) = charge :: after ↔
      ∃ before, fields = before ++ charge :: after ∧ (∀ field ∈ before, '%' ∉ field) ∧
        '%' ∈ charge := by
  have hskips : ∀ field : List Char, (!hasPercent field) = true ↔ '%' ∉ field := by
    intro field
    rw [← hasPercent_iff, Bool.not_eq_true', Bool.not_eq_true]
  constructor
  · intro hfields
    have hfirst := List.head?_dropWhile_not (fun field => !hasPercent field) fields
    rw [hfields] at hfirst
    refine ⟨fields.takeWhile (fun field => !hasPercent field), ?_, ?_, ?_⟩
    · rw [← hfields, List.takeWhile_append_dropWhile]
    · intro field hfield
      exact (hskips field).1 (List.all_eq_true.1 List.all_takeWhile field hfield)
    · simpa [hasPercent_iff] using hfirst
  · rintro ⟨before, rfl, hbefore, hcharge⟩
    have hskip : ∀ field ∈ before, (!hasPercent field) = true := fun field hfield =>
      (hskips field).2 (hbefore field hfield)
    rw [List.dropWhile_append_of_pos hskip, List.dropWhile_cons, hasPercent_iff.2 hcharge]
    rfl

/-- What the first field with a percent sign and the one after it give. -/
theorem chargeAndStatus_append {before : List (List Char)} {charge : List Char}
    (hbefore : ∀ field ∈ before, '%' ∉ field) (hcharge : '%' ∈ charge)
    (after : List (List Char)) :
    chargeAndStatus (before ++ charge :: after) =
      ((readNumber (dropMark '%' (dropMark ';' charge))).getD .zero,
        (after.head?.map (fun field => String.ofList (dropMark ';' field))).getD "Unknown") := by
  rw [chargeAndStatus, dropWhile_plain_eq_cons_iff.2 ⟨before, rfl, hbefore, hcharge⟩]
  cases after with
  | nil => rfl
  | cons status after => rfl

/-- The battery of a line with a percent sign is read from it. -/
theorem readFrom_batteryOfLine {line : List Char} (h : '%' ∈ line) (time : Option String)
    (power : PowerData) : ReadFrom line (batteryOfLine time power line) := by
  have hsome : ((words line).find? hasPercent).isSome = true := by
    obtain ⟨field, hfield, hmark⟩ := exists_mem_words_iff.2 ⟨h, (by decide : isBlank '%' = false)⟩
    exact List.find?_isSome.2 ⟨field, hfield, hasPercent_iff.2 hmark⟩
  obtain ⟨charge, hfound⟩ := Option.isSome_iff_exists.1 hsome
  obtain ⟨hcharge, before, after, hwords, hskip⟩ := List.find?_eq_some_iff_append.1 hfound
  have hbefore : ∀ field ∈ before, '%' ∉ field := by
    intro field hfield hmark
    have hnot := hskip field hfield
    rw [hasPercent_iff.2 hmark] at hnot
    cases hnot
  have hmark : '%' ∈ charge := hasPercent_iff.1 hcharge
  have hread := chargeAndStatus_append hbefore hmark after
  refine ⟨before, charge, after, hwords, hbefore, hmark, ?_, ?_⟩
  · rw [batteryOfLine, hwords, hread]
  · rw [batteryOfLine, hwords, hread]

/-- The batteries of a report are read from its lines with a percent sign, one from each and in
their order, and share the time left of the whole report, the condition and the cycle count.  So the
batteries of two reports joined by a line feed are those of the first and then those of the second,
up to the time left, which is that of the second report or else that of the first; and lines that
hold neither a percent sign nor the word `remaining` change nothing, between the lines of a report,
in front of it or behind it. -/
theorem batteries_by_lines (a b : String) (power : PowerData) :
    List.Forall₂ ReadFrom ((lines a.toList).filter (fun line => decide ('%' ∈ line)))
      (batteries a power) ∧
    (∀ battery ∈ batteries a power,
      battery.timeLeft = (timeLeft a.toList).map String.ofList ∧
        battery.health = power.health ∧ battery.cycleCount = power.cycles) ∧
    batteries (a ++ "\n" ++ b) power = (batteries a power ++ batteries b power).map
      (withTimeLeft (((timeLeft b.toList).or (timeLeft a.toList)).map String.ofList)) ∧
    ∀ m : String, '%' ∉ m.toList → remaining ∉ words m.toList →
      batteries (a ++ "\n" ++ m ++ "\n" ++ b) power = batteries (a ++ "\n" ++ b) power ∧
        batteries (m ++ "\n" ++ b) power = batteries b power ∧
        batteries (a ++ "\n" ++ m) power = batteries a power := by
  refine ⟨?_, ?_, batteries_append_newline a b power, ?_⟩
  · have hlines : (lines a.toList).filter (fun line => decide ('%' ∈ line)) =
        (lines a.toList).filter hasPercent := by
      apply List.filter_congr
      intro line _
      rw [Bool.eq_iff_iff, decide_eq_true_iff, hasPercent_iff]
    rw [hlines, batteries, List.forall₂_map_right_iff, List.forall₂_same]
    intro line hline
    exact readFrom_batteryOfLine (hasPercent_iff.1 (List.mem_filter.1 hline).2) _ power
  · intro battery hbattery
    exact batteries_shared hbattery
  · intro m hpercent hremaining
    exact ⟨batteries_around hpercent hremaining a b power,
      batteries_after hpercent hremaining b power, batteries_before hpercent hremaining a power⟩

/-- A blank line and a line about the charger between two batteries, the time left with the
second. -/
theorem batteries_by_lines_charger :
    let a := " -InternalBattery-0 (id=1)\t40%; discharging"
    let b := " -InternalBattery-1 (id=2)\t90%; charging; 2:05 remaining present: true"
    let m := "\r\nNow drawing from AC\r"
    '%' ∉ m.toList ∧ remaining ∉ words m.toList ∧
      batteries (a ++ "\n" ++ m ++ "\n" ++ b) ⟨some "Normal", 187⟩ =
        [⟨.ofInt 40, "discharging", some "2:05", some "Normal", 187⟩,
         ⟨.ofInt 90, "charging", some "2:05", some "Normal", 187⟩] := by
  intro a b m
  have hpercent : '%' ∉ m.toList := by decide +kernel
  have hremaining : remaining ∉ words m.toList := by decide +kernel
  have hjoined : batteries (a ++ "\n" ++ b) ⟨some "Normal", 187⟩ =
      [⟨.ofInt 40, "discharging", some "2:05", some "Normal", 187⟩,
       ⟨.ofInt 90, "charging", some "2:05", some "Normal", 187⟩] := by
    decide +kernel
  obtain ⟨-, -, -, hnothing⟩ := batteries_by_lines a b ⟨some "Normal", 187⟩
  refine ⟨hpercent, hremaining, ?_⟩
  rw [(hnothing m hpercent hremaining).1, hjoined]

end HostVitals.Report
