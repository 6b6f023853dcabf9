import HostVitals.Proofs.Report.FastBattery
import HostVitals.Proofs.Text.Trimming
import HostVitals.Report.Supply

/-!
# The same battery in a fast report and in a power supply

In a line of the fast report a charge stands with a percent sign and a semicolon after it, and a
status with a semicolon after it.  A power supply has them as texts of their own.  When neither has
a blank in it, both give the same battery, also when the charge is no number or has marks of its
own.

Main results:

- `batteries_of_line`: the charge and the status in a line of that form.
- `report_agrees_with_supply`: the report and the power supply give the same battery.
-/

namespace HostVitals.Report

open HostVitals.Number HostVitals.Text

section

variable {before charge tail : List Char}

/-- A charge with its marks is a word of its own. -/
theorem words_chargeLine (hcharge : BlankFree charge) :
    words (before ++ ' ' :: (charge ++ '%' :: ';' :: ' ' :: tail)) =
      words before ++ (charge ++ ['%', ';']) :: words tail := by
  have hspace : isBlank ' ' = true := by decide
  have hmarked : BlankFree (charge ++ ['%', ';']) := hcharge.append (by decide)
  have hsplit : charge ++ '%' :: ';' :: ' ' :: tail = (charge ++ ['%', ';']) ++ ' ' :: tail := by
    simp
  rw [words_append_blank hspace, hsplit, words_word_blank hspace (by simp) hmarked]

/-- The marks behind a charge are dropped. -/
theorem dropMark_charge : dropMark '%' (dropMark ';' (charge ++ ['%', ';'])) = charge := by
  have hsplit : charge ++ ['%', ';'] = (charge ++ ['%']) ++ [';'] := by simp
  rw [hsplit, dropMark_append, dropMark_append]

/-- A line with a charge, its marks and a blank after it gives one battery, with that charge and
with the word that follows as its status. -/
theorem batteries_of_line {line : String}
    (hline : line.toList = before ++ ' ' :: (charge ++ '%' :: ';' :: ' ' :: tail))
    (hbreak : '\n' ∉ line.toList) (hbefore : '%' ∉ before)
    (hcharge : BlankFree charge) (power : PowerData) :
    ∃ battery, batteries line power = [battery] ∧
      battery.percent = (readNumber charge).getD .zero ∧
      battery.status =
        ((words tail).head?.map (fun field => String.ofList (dropMark ';' field))).getD
          "Unknown" := by
  have hne : line.toList ≠ [] := by simp [hline]
  have hpercent : hasPercent line.toList = true := by
    rw [hasPercent_iff, hline]
    simp
  have hfields : ∀ field ∈ words before, '%' ∉ field := by
    intro field hfield hmark
    exact hbefore (exists_mem_words_iff.1 ⟨field, hfield, hmark⟩).1
  have hmarked : '%' ∈ charge ++ ['%', ';'] := by simp
  have hread := chargeAndStatus_append hfields hmarked (words tail)
  rw [← words_chargeLine hcharge, ← hline, dropMark_charge] at hread
  refine ⟨batteryOfLine ((timeLeft line.toList).map String.ofList) power line.toList, ?_, ?_, ?_⟩
  · simp [batteries, lines_eq_self hne hbreak, hpercent]
  · rw [batteryOfLine, hread]
  · rw [batteryOfLine, hread]

end

/-- A supply keeps a status without blanks around it. -/
theorem statusOfText_trimmed {status : String} (hne : status ≠ "") (h : Trimmed status.toList) :
    statusOfText (some status) = status := by
  have hfull : status.toList ≠ [] := by simpa using hne
  simp [statusOfText, h.trim_eq, hfull]

/-- A line of the fast report and a power supply with the same texts for charge and status give
batteries of the same charge, the same status and the same class, whatever stands around these in
the line, and also when the charge is no number or has marks in it. -/
theorem report_agrees_with_supply {before charge status after : String}
    (hpercent : '%' ∉ before.toList) (hbefore : '\n' ∉ before.toList)
    (hcharge : BlankFree charge.toList) (hne : status ≠ "") (hstatus : BlankFree status.toList)
    (hafter : '\n' ∉ after.toList) (power : PowerData) :
    ∃ battery,
      batteries (before ++ " " ++ charge ++ "%; " ++ status ++ "; " ++ after) power = [battery] ∧
      battery.percent = (batteryOfSupply charge (some status)).percent ∧
      battery.status = (batteryOfSupply charge (some status)).status ∧
      battery.chargeState = (batteryOfSupply charge (some status)).chargeState := by
  have hline : (before ++ " " ++ charge ++ "%; " ++ status ++ "; " ++ after).toList =
      before.toList ++ ' ' :: (charge.toList ++ '%' :: ';' :: ' ' ::
        ((status.toList ++ [';']) ++ ' ' :: after.toList)) := by
    simp
  have hbreak : '\n' ∉ (before ++ " " ++ charge ++ "%; " ++ status ++ "; " ++ after).toList := by
    rw [hline]
    simp [hbefore, hafter, hcharge.not_mem_newline, hstatus.not_mem_newline]
  obtain ⟨battery, hfound, hread, hword⟩ :=
    batteries_of_line hline hbreak hpercent hcharge power
  have hmarked : BlankFree (status.toList ++ [';']) := hstatus.append (by decide)
  rw [words_word_blank (by decide) (by simp) hmarked] at hword
  have hsame : battery.status = (batteryOfSupply charge (some status)).status := by
    rw [hword, batteryOfSupply, statusOfText_trimmed hne hstatus.trimmed]
    simp [dropMark_append]
  refine ⟨battery, hfound, ?_, hsame, ?_⟩
  · rw [hread, batteryOfSupply, hcharge.trimmed.trim_eq]
  · rw [Battery.chargeState, Battery.chargeState, hsame]

/-- A charge with marks of its own and a status that is a mark. -/
theorem report_agrees_with_supply_marks :
    let line := " -InternalBattery-0\t(id=1)" ++ " " ++ "8%;5" ++ "%; " ++ ";" ++ "; " ++ "90%; AC\r"
    ∃ battery, batteries line PowerData.none = [battery] ∧
      battery.percent = (batteryOfSupply "8%;5" (some ";")).percent ∧
      battery.status = (batteryOfSupply "8%;5" (some ";")).status ∧
      battery.chargeState = (batteryOfSupply "8%;5" (some ";")).chargeState :=
  report_agrees_with_supply (by decide +kernel) (by decide +kernel) (by decide +kernel)
    (by decide +kernel) (by decide +kernel) (by decide +kernel) PowerData.none

end HostVitals.Report
