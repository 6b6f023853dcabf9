import HostVitals.Proofs.Number.Signed
import HostVitals.Proofs.Text.Trimming
import HostVitals.Report.Temperature

/-!
# Which answers give temperatures and levels

An answer gives a number when it is a signed numeral between blanks and the number fits into 64
bits.  A thermal level may be zero, and the temperature next to the battery has to be above zero.
Numerals of any length are held against these limits by the number they stand for, so that zeros in
front never matter, and a number that is too great is never taken for another one.

Main results:

- `thermalLevel_eq`, `batteryTemperature_eq`: the limits of what is read.
- `trim_writtenInt`: a written number is found between blanks.
- `answers_by_numeral`: exactly which answers give a level or a temperature, and which one.
-/

namespace HostVitals.Report

open HostVitals.Number HostVitals.Text

/-! ## Limits -/

/-- The levels are the numbers of 64 bits from zero on. -/
theorem thermalLevel_eq (answer : String) :
    thermalLevel answer = readSigned 0 0x7fffffffffffffff (trim answer.toList) :=
  filter_readSigned _ _ 0 _

/-- The temperatures are hundredths of the numbers of 64 bits from one on. -/
theorem batteryTemperature_eq (answer : String) :
    batteryTemperature answer =
      (readSigned 1 0x7fffffffffffffff (trim answer.toList)).map
        (fun n => (Binary64.ofInt n).div (.ofInt 100)) :=
  congrArg (Option.map _) (filter_readSigned _ _ 1 _)

/-! ## Written numbers -/

theorem isBlank_of_isDigit {c : Char} (h : isDigit c = true) : isBlank c = false := by
  have hleast : '0' ≤ c ↔ 0x30 ≤ c.toNat := Iff.rfl
  have hgreatest : c ≤ '9' ↔ c.toNat ≤ 0x39 := Iff.rfl
  simp only [isDigit, Bool.and_eq_true, decide_eq_true_eq, hleast, hgreatest] at h
  simp only [isBlank, Bool.or_eq_false_iff, Bool.and_eq_false_imp, decide_eq_true_eq,
    decide_eq_false_iff_not, beq_eq_false_iff_ne]
  omega

/-- No blank stands in a numeral. -/
theorem blankFree_of_isSigned {text : List Char} {n : Int} (h : IsSigned text n) :
    BlankFree text := by
  have hdigits : ∀ {digits : List Char} {m : Nat}, IsDigits digits m → BlankFree digits :=
    fun h c hc => isBlank_of_isDigit (h.digits c hc)
  cases h with
  | plain h => exact hdigits h
  | plus h => exact List.forall_mem_cons.2 ⟨by decide, hdigits h⟩
  | minus h => exact List.forall_mem_cons.2 ⟨by decide, hdigits h⟩

/-- A written number is found between blanks. -/
theorem trim_writtenInt {before after : List Char} (hbefore : ∀ c ∈ before, isBlank c = true)
    (hafter : ∀ c ∈ after, isBlank c = true) (zeros : Nat) (n : Int) :
    trim (before ++ writtenInt zeros n ++ after) = writtenInt zeros n := by
  have hwritten : BlankFree (writtenInt zeros n) :=
    blankFree_of_isSigned (isSigned_writtenInt zeros n)
  rw [trim_append_blanks hafter, trim_blanks_append hbefore, hwritten.trimmed.trim_eq]

/-! ## Answers -/

/-- An answer gives a thermal level exactly when it is a numeral, between blanks, for a number of 64
bits that is not below zero, and then it gives that number.  It gives a temperature exactly when the
number is above zero, and then it gives the number over a hundred.  So every whole number in decimal,
of any size, with any zeros in front and any blanks around it, is read back as that level when it is
in range, and it is rejected when it is below zero or does not fit into 64 bits. -/
theorem answers_by_numeral (answer : String) :
    (∀ n, thermalLevel answer = some n ↔
      IsSigned (trim answer.toList) n ∧ 0 ≤ n ∧ n ≤ 0x7fffffffffffffff) ∧
    (∀ degrees, batteryTemperature answer = some degrees ↔
      ∃ n, IsSigned (trim answer.toList) n ∧ (1 ≤ n ∧ n ≤ 0x7fffffffffffffff) ∧
        (Binary64.ofInt n).div (.ofInt 100) = degrees) ∧
    ∀ (n : Int) (zeros : Nat) (before after : List Char),
      (∀ c ∈ before, isBlank c = true) → (∀ c ∈ after, isBlank c = true) →
      let text := String.ofList (before ++ writtenInt zeros n ++ after)
      thermalLevel text = (if 0 ≤ n ∧ n ≤ 0x7fffffffffffffff then some n else none) ∧
      batteryTemperature text = if 1 ≤ n ∧ n ≤ 0x7fffffffffffffff then
        some ((Binary64.ofInt n).div (.ofInt 100)) else none := by
  refine ⟨?_, ?_, ?_⟩
  · intro n
    rw [thermalLevel_eq, readSigned_eq_some_iff]
  · intro degrees
    simp only [batteryTemperature_eq, Option.map_eq_some_iff, readSigned_eq_some_iff, and_assoc]
  · intro n zeros before after hbefore hafter text
    have htrim : trim text.toList = writtenInt zeros n := by
      rw [String.toList_ofList, trim_writtenInt hbefore hafter]
    have hnumeral : IsSigned (trim text.toList) n := by
      rw [htrim]
      exact isSigned_writtenInt zeros n
    refine ⟨?_, ?_⟩
    · rw [thermalLevel_eq, readSigned_of_isSigned hnumeral]
    · rw [batteryTemperature_eq, readSigned_of_isSigned hnumeral]
      split <;> rfl

/-- Zero with a minus sign, which is a level; and with zeros in front and blanks around them the
greatest number of 64 bits, the number that follows it, and the least one. -/
theorem answers_by_numeral_limits :
    let written := fun n =>
      String.ofList (['\u00A0', '\t'] ++ writtenInt 20 n ++ ['\u2003', '\r', '\n'])
    IsSigned (trim "\u3000-00\n".toList) 0 ∧ thermalLevel "\u3000-00\n" = some 0 ∧
      thermalLevel (written 9223372036854775807) = some 9223372036854775807 ∧
      thermalLevel (written 9223372036854775808) = none ∧
      batteryTemperature (written (-9223372036854775808)) = none := by
  intro written
  have htrim : trim "\u3000-00\n".toList = ['-', '0', '0'] := by decide +kernel
  have hzero : IsSigned (trim "\u3000-00\n".toList) 0 := by
    have hdigits : IsDigits ['0', '0'] 0 := ⟨by decide, List.all_eq_true.1 (by decide), by decide⟩
    rw [htrim]
    exact .minus hdigits
  obtain ⟨hlevel, -, hwritten⟩ := answers_by_numeral "\u3000-00\n"
  have hbefore : ∀ c ∈ ['\u00A0', '\t'], isBlank c = true :=
    List.all_eq_true.1 (by decide)
  have hafter : ∀ c ∈ ['\u2003', '\r', '\n'], isBlank c = true :=
    List.all_eq_true.1 (by decide)
  have hread := fun n => hwritten n 20 _ _ hbefore hafter
  exact ⟨hzero, (hlevel 0).2 ⟨hzero, by decide, by decide⟩, (hread 9223372036854775807).1,
    (hread 9223372036854775808).1, (hread (-9223372036854775808)).2⟩

/-- Hundredths of a degree become the double that is nearest to 30.12. -/
example :
    batteryTemperature " +003012\n" = some (.ofBits 0x403E1EB851EB851F) ∧
      batteryTemperature "0" = none ∧ thermalLevel "0" = some 0 := by
  decide +kernel

end HostVitals.Report
