import Mathlib.Data.List.Induction
import HostVitals.Proofs.Number.Unsigned
import HostVitals.Proofs.Text.Trimming
import HostVitals.Report.PowerProfile

/-!
# Which lines of a power profile decide

A line decides about an item when it has exactly one colon and the phrases for the item stand in its
lower-case form.  The cycle count and the condition are taken from the last line that decides about
them, whatever it says, and the speed of the fan from the first one.  How lines end makes no
difference, so that the items of two reports joined by a line feed are those of the second or else
those of the first, and the other way round for the fan.  Lines with no colon or with several never
matter.

Main results:

- `valueOfLine_eq`: the value of a line is what stands behind its one colon.
- `values_append_newline`: the values of an item in two reports joined by a line feed.
- `powerData_eq`, `fanSpeed_eq`: the report is read by the values of its items.
- `powerData_last_lines`: cycle count and condition, in one report and in reports joined.
- `fanSpeed_first_line`: the speed of the fan, in one report and in reports joined.
-/

namespace HostVitals.Report

open HostVitals.Number HostVitals.Text

/-! ## Values of lines -/

/-- What stands behind the first colon of a line, without the blanks around it. -/
def textBehindColon (line : List Char) : List Char :=
  trim ((line.dropWhile (fun c => !isColon c)).drop 1)

theorem isColon_eq_false {cs : List Char} (h : ':' ∉ cs) : ∀ c ∈ cs, isColon c = false := by
  intro c hc
  rw [isColon, beq_eq_false_iff_ne]
  rintro rfl
  exact h hc

theorem textBehindColon_append {name : List Char} (hname : ':' ∉ name) (value : List Char) :
    textBehindColon (name ++ ':' :: value) = trim value := by
  have hskip : ∀ c ∈ name, (!isColon c) = true := by
    intro c hc
    rw [isColon_eq_false hname c hc]
    rfl
  rw [textBehindColon, List.dropWhile_append_of_pos hskip]
  rfl

/-- The value of a line with exactly one colon is what stands behind it; other lines have none. -/
theorem valueOfLine_eq (line : List Char) :
    valueOfLine line = if line.count ':' = 1 then some (textBehindColon line) else none := by
  have hplain : ∀ cs : List Char, ':' ∉ cs → cs.all (fun c => !isColon c) = true := by
    intro cs hcs
    rw [List.all_eq_true]
    intro c hc
    rw [isColon_eq_false hcs c hc]
    rfl
  by_cases hcolon : ':' ∈ line
  · obtain ⟨name, value, rfl, hname⟩ := List.eq_append_cons_of_mem hcolon
    by_cases hmore : ':' ∈ value
    · obtain ⟨first, rest, rfl, -⟩ := List.eq_append_cons_of_mem hmore
      have hcount : (name ++ ':' :: (first ++ ':' :: rest)).count ':' ≠ 1 := by
        simp only [List.count_append, List.count_cons_self]
        omega
      have hnone := valueOfLine_several name first rest
      rw [List.append_assoc, List.cons_append] at hnone
      rw [if_neg hcount, hnone]
    · have hcount : (name ++ ':' :: value).count ':' = 1 := by
        simp [List.count_eq_zero.2 hname, List.count_eq_zero.2 hmore]
      rw [if_pos hcount, textBehindColon_append hname,
        valueOfLine_single (hplain name hname) (hplain value hmore)]
  · have hcount : line.count ':' ≠ 1 := by simp [List.count_eq_zero.2 hcolon]
    rw [if_neg hcount, valueOfLine, pieces_eq_self (isColon_eq_false hcolon)]

theorem mentions_iff {phrase : String} {line : List Char} :
    mentions phrase line = true ↔ phrase.toList <:+: lower line := by
  rw [mentions, contains_eq_true_iff]
  exact exists₂_congr fun before rest => eq_comm

/-! ## Deciding lines -/

/-- The line has exactly one colon, and the phrases stand in its lower-case form. -/
def Decides (phrases : List String) (line : List Char) : Prop :=
  line.count ':' = 1 ∧ ∀ phrase ∈ phrases, phrase.toList <:+: lower line

instance (phrases : List String) : DecidablePred (Decides phrases) := fun line =>
  inferInstanceAs (Decidable (line.count ':' = 1 ∧ _))

/-- The lines of a report that decide about an item with these phrases. -/
def decidingLines (phrases : List String) (report : String) : List (List Char) :=
  (lines report.toList).filter (fun line => decide (Decides phrases line))

/-- What a line says about an item with these phrases. -/
def itemValue (phrases : List String) (line : List Char) : Option (List Char) :=
  if Decides phrases line then some (textBehindColon line) else none

theorem itemValue_of_decides {phrases : List String} {line : List Char}
    (h : Decides phrases line) : itemValue phrases line = some (textBehindColon line) :=
  if_pos h

theorem itemValue_of_not_decides {phrases : List String} {line : List Char}
    (h : ¬Decides phrases line) : itemValue phrases line = none :=
  if_neg h

/-- What the lines of a report say about an item with these phrases. -/
def values (phrases : List String) (report : String) : List (List Char) :=
  (lines report.toList).filterMap (itemValue phrases)

theorem values_eq_map (phrases : List String) (report : String) :
    values phrases report = (decidingLines phrases report).map textBehindColon := by
  unfold values decidingLines
  induction lines report.toList with
  | nil => rfl
  | cons line rest ih =>
      by_cases hline : Decides phrases line
      · simp [itemValue_of_decides hline, hline, ih]
      · simp [itemValue_of_not_decides hline, hline, ih]

theorem itemValue_eq (phrases : List String) (line : List Char) :
    itemValue phrases line =
      if phrases.all (fun phrase => mentions phrase line) then valueOfLine line else none := by
  have hall : phrases.all (fun phrase => mentions phrase line) = true ↔
      ∀ phrase ∈ phrases, phrase.toList <:+: lower line := by
    simp [List.all_eq_true, mentions_iff]
  by_cases hdecides : Decides phrases line
  · rw [itemValue_of_decides hdecides, if_pos (hall.2 hdecides.2), valueOfLine_eq,
      if_pos hdecides.1]
  · rw [itemValue_of_not_decides hdecides]
    by_cases hphrases : phrases.all (fun phrase => mentions phrase line) = true
    · have hcount : line.count ':' ≠ 1 := fun hcount => hdecides ⟨hcount, hall.1 hphrases⟩
      rw [if_pos hphrases, valueOfLine_eq, if_neg hcount]
    · rw [if_neg hphrases]

/-! ## Ends of lines -/

/-- A carriage return at the end of a line brings no phrase about. -/
theorem infix_lower_return_iff {phrase : List Char} (h : '\r' ∉ phrase) (line : List Char) :
    phrase <:+: lower (line ++ ['\r']) ↔ phrase <:+: lower line := by
  have hreturn : lower ['\r'] = ['\r'] := by decide +kernel
  rw [lower_append, hreturn, List.infix_concat_iff, List.suffix_concat_iff]
  constructor
  · rintro ((rfl | ⟨front, rfl, -⟩) | hline)
    · exact List.nil_infix
    · simp at h
    · exact hline
  · exact .inr

/-- Nor does it change what stands behind the colon. -/
theorem textBehindColon_return {line : List Char} (h : ':' ∈ line) :
    textBehindColon (line ++ ['\r']) = textBehindColon line := by
  obtain ⟨name, value, rfl, hname⟩ := List.eq_append_cons_of_mem h
  have hblank : ∀ c ∈ ['\r'], isBlank c = true := List.forall_mem_singleton.2 (by decide)
  rw [List.append_assoc, List.cons_append, textBehindColon_append hname,
    textBehindColon_append hname, trim_append_blanks hblank]

/-- An item cannot be told by an empty line. -/
theorem itemValue_nil (phrases : List String) : itemValue phrases [] = none :=
  itemValue_of_not_decides fun h => absurd h.1 (by decide)

section

variable {phrases : List String} (hphrases : ∀ phrase ∈ phrases, '\r' ∉ phrase.toList)
include hphrases

/-- How a line ends makes no difference. -/
theorem itemValue_dropMark (line : List Char) :
    itemValue phrases (dropMark '\r' line) = itemValue phrases line := by
  by_cases hlast : line.getLast? = some '\r'
  · obtain ⟨front, rfl⟩ := List.getLast?_eq_some_iff.1 hlast
    have hdecides : Decides phrases (front ++ ['\r']) ↔ Decides phrases front := by
      have hcount : (front ++ ['\r']).count ':' = front.count ':' := by simp
      unfold Decides
      rw [hcount]
      refine and_congr_right fun _ => forall₂_congr fun phrase hphrase => ?_
      exact infix_lower_return_iff (hphrases phrase hphrase) front
    rw [dropMark_append]
    by_cases hfront : Decides phrases front
    · have hcolon : ':' ∈ front := List.count_pos_iff.1 (hfront.1 ▸ Nat.one_pos)
      rw [itemValue_of_decides hfront, itemValue_of_decides (hdecides.2 hfront),
        textBehindColon_return hcolon]
    · rw [itemValue_of_not_decides hfront, itemValue_of_not_decides (mt hdecides.1 hfront)]
  · rw [dropMark_eq_self hlast]

/-- The values in two reports joined by a line feed are those of the first and then those of the
second. -/
theorem values_append_newline (a b : String) :
    values phrases (a ++ "\n" ++ b) = values phrases a ++ values phrases b := by
  rw [values, toList_append_newline]
  exact filterMap_lines_append_newline (itemValue_nil phrases) (itemValue_dropMark hphrases) _ _

/-- The last value in two reports joined by a line feed is that of the second when it has a deciding
line, and that of the first otherwise. -/
theorem getLast?_values_append_newline (a b : String) :
    (values phrases (a ++ "\n" ++ b)).getLast? =
      if decidingLines phrases b = [] then (values phrases a).getLast?
      else (values phrases b).getLast? := by
  rw [values_append_newline hphrases]
  by_cases hnone : decidingLines phrases b = []
  · rw [if_pos hnone, values_eq_map phrases b, hnone, List.map_nil, List.append_nil]
  · rw [if_neg hnone, List.getLast?_append]
    cases hlast : (values phrases b).getLast? with
    | none =>
        rw [List.getLast?_eq_none_iff, values_eq_map, List.map_eq_nil_iff] at hlast
        exact absurd hlast hnone
    | some value => rfl

end

/-- Lines with no colon or with several say nothing. -/
theorem values_eq_nil {m : String} (h : ∀ line ∈ lines m.toList, line.count ':' ≠ 1)
    (phrases : List String) : values phrases m = [] := by
  rw [values, List.filterMap_eq_nil_iff]
  intro line hline
  exact itemValue_of_not_decides fun hdecides => h line hline hdecides.1

/-! ## Cycle count and condition -/

/-- A line replaces what it has a value for. -/
theorem addLine_eq (data : PowerData) (line : List Char) :
    data.addLine line =
      { health := ((itemValue ["condition"] line).map String.ofList).or data.health
        cycles := ((itemValue ["cycle count"] line).map
          (fun value => (readUInt32 value).getD 0)).getD data.cycles } := by
  simp only [itemValue_eq, List.all_cons, List.all_nil, Bool.and_true]
  unfold PowerData.addLine
  cases valueOfLine line with
  | none => simp
  | some value =>
      cases mentions "condition" line <;> cases mentions "cycle count" line <;> rfl

/-- The last value of each item counts. -/
theorem powerData_eq (report : String) :
    powerData report =
      { health := (values ["condition"] report).getLast?.map String.ofList
        cycles := ((values ["cycle count"] report).getLast?.map
          (fun value => (readUInt32 value).getD 0)).getD 0 } := by
  unfold powerData values
  induction lines report.toList using List.reverseRecOn with
  | nil => rfl
  | append_singleton ls line ih =>
      rw [List.foldl_append, List.foldl_cons, List.foldl_nil, ih, addLine_eq]
      simp only [List.getLast?_filterMap, List.reverse_append, List.reverse_singleton,
        List.singleton_append, List.findSome?_cons]
      cases itemValue ["condition"] line <;> cases itemValue ["cycle count"] line <;> rfl

/-- The cycle count is the count behind the colon of the last line that decides about it, which is
zero when there is none in the range of 32 bits, and the condition is what stands behind the colon of
the last line that decides about that.  So each of them is taken from the second of two reports
joined by a line feed when that one has a line that decides about it, and from the first otherwise;
and lines with no colon or with several change nothing, between the lines of a report, in front of
it or behind it. -/
theorem powerData_last_lines (a b : String) :
    (decidingLines ["cycle count"] a = [] → (powerData a).cycles = 0) ∧
    (∀ line, (decidingLines ["cycle count"] a).getLast? = some line →
      Counts (textBehindColon line) (powerData a).cycles) ∧
    (powerData a).health = (decidingLines ["condition"] a).getLast?.map
      (fun line => String.ofList (textBehindColon line)) ∧
    (powerData (a ++ "\n" ++ b)).cycles =
      (if decidingLines ["cycle count"] b = [] then powerData a else powerData b).cycles ∧
    (powerData (a ++ "\n" ++ b)).health =
      (if decidingLines ["condition"] b = [] then powerData a else powerData b).health ∧
    ∀ m : String, (∀ line ∈ lines m.toList, line.count ':' ≠ 1) →
      powerData (a ++ "\n" ++ m ++ "\n" ++ b) = powerData (a ++ "\n" ++ b) ∧
        powerData (m ++ "\n" ++ b) = powerData b ∧ powerData (a ++ "\n" ++ m) = powerData a := by
  have hcycles : ∀ phrase ∈ ["cycle count"], '\r' ∉ phrase.toList := by decide
  have hcondition : ∀ phrase ∈ ["condition"], '\r' ∉ phrase.toList := by decide
  refine ⟨?_, ?_, ?_, ?_, ?_, ?_⟩
  · intro hnone
    simp [powerData_eq, values_eq_map, hnone]
  · intro line hlast
    simp only [powerData_eq, values_eq_map, List.getLast?_map, hlast, Option.map_some,
      Option.getD_some]
    exact counts_readUInt32 _
  · simp only [powerData_eq, values_eq_map, List.getLast?_map, Option.map_map]
    rfl
  · simp only [powerData_eq, getLast?_values_append_newline hcycles]
    split <;> rfl
  · simp only [powerData_eq, getLast?_values_append_newline hcondition]
    split <;> rfl
  · intro m hm
    have hnone : ∀ phrases, values phrases m = [] := values_eq_nil hm
    simp only [powerData_eq, values_append_newline hcycles, values_append_newline hcondition, hnone,
      List.append_nil, List.nil_append, and_self]

/-- A condition in the first report, and a cycle count there that a malformed one in the second
replaces; between them a line with several colons and one that ends with a carriage return. -/
theorem powerData_last_lines_replaced :
    let a := "CYCLE COUNT: 187\r\ncondition:\u2003Good\t"
    let b := "Cycle Count:+4294967296"
    let m := "Condition: a: b\r\nCycle Count\n"
    (∀ line ∈ lines m.toList, line.count ':' ≠ 1) ∧
      powerData a = ⟨some "Good", 187⟩ ∧
      powerData (a ++ "\n" ++ m ++ "\n" ++ b) = ⟨some "Good", 0⟩ ∧
      Counts "187".toList 187 := by
  intro a b m
  have hnothing : ∀ line ∈ lines m.toList, line.count ':' ≠ 1 := by decide +kernel
  have hread : powerData a = ⟨some "Good", 187⟩ := by decide +kernel
  have hjoined : powerData (a ++ "\n" ++ b) = ⟨some "Good", 0⟩ := by decide +kernel
  obtain ⟨-, hcounts, -, -, -, hskipped⟩ := powerData_last_lines a b
  have hlast : (decidingLines ["cycle count"] a).getLast? = some "CYCLE COUNT: 187".toList := by
    decide +kernel
  have hcount : Counts (textBehindColon "CYCLE COUNT: 187".toList) (powerData a).cycles :=
    hcounts _ hlast
  have hvalue : textBehindColon "CYCLE COUNT: 187".toList = "187".toList := by decide +kernel
  rw [hvalue, hread] at hcount
  exact ⟨hnothing, hread, (hskipped m hnothing).1.trans hjoined, hcount⟩

/-! ## Fan -/

/-- The first value counts. -/
theorem fanSpeed_eq (report : String) :
    fanSpeed report = (values ["fan", "speed"] report).head?.map readFanSpeed := by
  have hitem : ∀ line, itemValue ["fan", "speed"] line =
      if isFanLine line then valueOfLine line else none := by
    intro line
    rw [itemValue_eq]
    simp [isFanLine]
  unfold fanSpeed values
  rw [List.head?_filterMap]
  congr 1
  induction lines report.toList with
  | nil => rfl
  | cons line rest ih =>
      rw [List.findSome?_cons, hitem, ← ih]
      cases hfan : isFanLine line with
      | true => simp [hfan, List.findSome?_cons]
      | false => simp [hfan]

/-- The speed is the number in the first word of a value, zero when that is none in the range of 32
bits, or when there is no word. -/
theorem counts_readFanSpeed (value : List Char) :
    (∀ word ∈ (words value).head?, Counts word (readFanSpeed value)) ∧
      (words value = [] → readFanSpeed value = 0) := by
  unfold readFanSpeed
  cases words value with
  | nil => simp
  | cons word rest => simpa using counts_readUInt32 word

/-- The speed of the fan is decided by the first line about it with exactly one colon, as the count
in the first word behind the colon; there is none exactly when there is no such line.  So it is taken
from the first of two reports joined by a line feed when that one has such a line, also when the line
gives no number in the range of 32 bits, and from the second otherwise; and lines with no colon or
with several change nothing, between the lines of a report, in front of it or behind it. -/
theorem fanSpeed_first_line (a b : String) :
    (fanSpeed a = none ↔ ∀ line ∈ lines a.toList, ¬Decides ["fan", "speed"] line) ∧
    (∀ line, (decidingLines ["fan", "speed"] a).head? = some line →
      ∃ speed, fanSpeed a = some speed ∧ fanSpeed (a ++ "\n" ++ b) = some speed ∧
        (∀ word ∈ (words (textBehindColon line)).head?, Counts word speed) ∧
        (words (textBehindColon line) = [] → speed = 0)) ∧
    fanSpeed (a ++ "\n" ++ b) = (fanSpeed a).or (fanSpeed b) ∧
    ∀ m : String, (∀ line ∈ lines m.toList, line.count ':' ≠ 1) →
      fanSpeed (a ++ "\n" ++ m ++ "\n" ++ b) = fanSpeed (a ++ "\n" ++ b) ∧
        fanSpeed (m ++ "\n" ++ b) = fanSpeed b ∧ fanSpeed (a ++ "\n" ++ m) = fanSpeed a := by
  have hfan : ∀ phrase ∈ ["fan", "speed"], '\r' ∉ phrase.toList := by decide
  have hjoined : fanSpeed (a ++ "\n" ++ b) = (fanSpeed a).or (fanSpeed b) := by
    simp only [fanSpeed_eq, values_append_newline hfan, List.head?_append, Option.map_or]
  refine ⟨?_, ?_, hjoined, ?_⟩
  · rw [fanSpeed_eq, Option.map_eq_none_iff, List.head?_eq_none_iff, values_eq_map,
      List.map_eq_nil_iff, decidingLines, List.filter_eq_nil_iff]
    simp only [decide_eq_true_eq]
  · intro line hfirst
    have hspeed : fanSpeed a = some (readFanSpeed (textBehindColon line)) := by
      rw [fanSpeed_eq, values_eq_map, List.head?_map, hfirst]
      rfl
    refine ⟨_, hspeed, ?_, counts_readFanSpeed _⟩
    rw [hjoined, hspeed]
    rfl
  · intro m hm
    have hnone : values ["fan", "speed"] m = [] := values_eq_nil hm _
    simp only [fanSpeed_eq, values_append_newline hfan, hnone, List.append_nil, List.nil_append,
      and_self]

/-- A fan line without a number is not passed over for a later one, but a line with several colons
is. -/
theorem fanSpeed_first_line_blank :
    let a := "Left FAN SPEED:\u2003\r"
    let b := "Fan Speed: 1200 RPM"
    let m := "Fan Speed: 10:00\r\n"
    (∀ line ∈ lines m.toList, line.count ':' ≠ 1) ∧
      fanSpeed (m ++ "\n" ++ b) = some 1200 ∧ fanSpeed (a ++ "\n" ++ b) = some 0 := by
  intro a b m
  have hnothing : ∀ line ∈ lines m.toList, line.count ':' ≠ 1 := by decide +kernel
  have hread : fanSpeed b = some 1200 := by decide +kernel
  have hfirst : (decidingLines ["fan", "speed"] a).head? = some a.toList := by decide +kernel
  have hblank : words (textBehindColon a.toList) = [] := by decide +kernel
  obtain ⟨-, hdecided, -, hskipped⟩ := fanSpeed_first_line a b
  obtain ⟨speed, -, hspeed, -, hzero⟩ := hdecided _ hfirst
  exact ⟨hnothing, (hskipped m hnothing).2.1.trans hread, hspeed.trans (by rw [hzero hblank])⟩

end HostVitals.Report
