import HostVitals.Json.Value

/-!
# Numbers in JSON documents

A number may stand in a document when it has digits where there must be some, and no zero in front
of others.  Whole numbers and numbers of binary64 are written as such numbers.

Main results:

- `wellFormed_ofNat`, `wellFormed_of_ofBinary64`: the numbers that are written are well-formed.
- `toNat_ofNat`: a whole number is read back.
-/

namespace HostVitals.Number

/-! ## Digits of whole numbers -/

/-- The digits of a number are digits. -/
theorem isDigit_of_mem_natDigits {n : Nat} {c : Char} (h : c ∈ natDigits n) : isDigit c = true := by
  have hdigit := Nat.isDigit_of_mem_toDigits (by decide) (by decide) h
  simp only [Char.isDigit, Bool.and_eq_true, decide_eq_true_eq] at hdigit
  simp only [isDigit, Bool.and_eq_true, decide_eq_true_eq]
  exact hdigit

theorem natDigits_ne_nil (n : Nat) : natDigits n ≠ [] :=
  Nat.toDigits_ne_nil

/-- Only zero has a zero as its first digit. -/
theorem head_natDigits {n : Nat} (h : 0 < n) : (natDigits n).head? ≠ some '0' := by
  induction n using Nat.strongRecOn with
  | ind n ih =>
      unfold natDigits at *
      by_cases hsmall : n < 10
      · rw [Nat.toDigits_of_lt_base hsmall]
        have hdigits : ∀ m : Fin 10, 0 < m.val → [Nat.digitChar m.val].head? ≠ some '0' := by
          decide
        exact hdigits ⟨n, hsmall⟩ h
      · have hrest := ih (n / 10) (by omega) (by omega)
        rw [Nat.toDigits_of_base_le (by decide) (by omega)]
        rcases hparts : Nat.toDigits 10 (n / 10) with _ | ⟨c, cs⟩
        · exact absurd hparts Nat.toDigits_ne_nil
        · rw [hparts] at hrest
          exact hrest

/-- The digits of a number stand for it. -/
theorem digitsValue_natDigits (n : Nat) : digitsValue (natDigits n) = n := by
  have hvalue := Nat.ofDigitChars_toDigits (b := 10) (n := n) (by decide) (by decide)
  unfold Nat.ofDigitChars at hvalue
  unfold digitsValue natDigits digitValue
  simpa only [Nat.mul_comm] using hvalue

end HostVitals.Number

namespace HostVitals.Json

open HostVitals.Number

/-! ## Well-formed numbers -/

/-- A number that may stand in a document. -/
structure Numeral.WellFormed (n : Numeral) : Prop where
  whole_ne_nil : n.whole ≠ []
  whole_digits : ∀ c ∈ n.whole, isDigit c = true
  /-- No zero stands in front of other digits. -/
  whole_head : n.whole.head? = some '0' → n.whole.length = 1
  fraction_digits : ∀ c ∈ n.fraction, isDigit c = true
  exponent_ne_nil : ∀ e ∈ n.exponent, e.digits ≠ []
  exponent_digits : ∀ e ∈ n.exponent, ∀ c ∈ e.digits, isDigit c = true

theorem wellFormed_ofNat (n : Nat) : (Numeral.ofNat n).WellFormed where
  whole_ne_nil := natDigits_ne_nil n
  whole_digits := fun _ => isDigit_of_mem_natDigits
  whole_head := by
    intro hzero
    rcases Nat.eq_zero_or_pos n with rfl | hpos
    · rfl
    · exact absurd hzero (head_natDigits hpos)
  fraction_digits := by simp [Numeral.ofNat]
  exponent_ne_nil := by simp [Numeral.ofNat]
  exponent_digits := by simp [Numeral.ofNat]

/-- A number that is put together from digits is well-formed unless it starts with a zero that is
not all of it. -/
theorem wellFormed_ofDigits {negative : Bool} {digits : List Char} {highest : Int}
    (hne : digits ≠ []) (hdigits : ∀ c ∈ digits, isDigit c = true)
    (hhead : digits.head? = some '0' → digits = ['0'] ∧ highest = 0) :
    (Numeral.ofDigits negative digits highest).WellFormed := by
  obtain ⟨first, digits, rfl⟩ := List.exists_cons_of_ne_nil hne
  have hzero : isDigit '0' = true := rfl
  have htake : ∀ places, ∀ c ∈ (first :: digits).take places, isDigit c = true :=
    fun places c hc => hdigits c (List.mem_of_mem_take hc)
  have hdrop : ∀ places, ∀ c ∈ (first :: digits).drop places, isDigit c = true :=
    fun places c hc => hdigits c (List.mem_of_mem_drop hc)
  have hzeros : ∀ count, ∀ c ∈ List.replicate count '0', isDigit c = true := by
    intro count c hc
    rw [List.eq_of_mem_replicate hc]
    exact hzero
  unfold Numeral.ofDigits
  split
  · -- all places before the point are written
    refine ⟨by simp, ?_, ?_, ?_, by simp, by simp⟩
    · intro c hc
      rcases List.mem_append.1 hc with hc | hc
      · exact htake _ c hc
      · exact hzeros _ c hc
    · intro hfirst
      obtain ⟨hall, rfl⟩ := hhead (by simpa using hfirst)
      obtain ⟨rfl, rfl⟩ := List.cons.inj hall
      rfl
    · intro c hc
      dsimp only at hc
      split at hc
      · rw [List.mem_singleton.1 hc]
        exact hzero
      · exact hdrop _ c hc
  · split
    · -- a zero stands before the point
      refine ⟨by simp, by simp [hzero], by simp, ?_, by simp, by simp⟩
      intro c hc
      rcases List.mem_append.1 hc with hc | hc
      · exact hzeros _ c hc
      · exact hdigits c hc
    · -- one digit stands before the point
      refine ⟨by simp, htake 1, by simp, hdrop 1, ?_, ?_⟩
      · rintro e ⟨rfl⟩
        exact natDigits_ne_nil _
      · rintro e ⟨rfl⟩ c hc
        exact isDigit_of_mem_natDigits hc

/-! ## Numbers of binary64 -/

/-- A point of a grid is not zero. -/
theorem digits_onGrid {i : Neighbourhood} {exponent : Int} {x : Scientific}
    (h : onGrid i exponent = some x) : x.digits ≠ 0 := by
  unfold onGrid at h
  dsimp only at h
  split at h
  · next hbelow =>
    cases h
    simp only [Bool.and_eq_true, decide_eq_true_eq] at hbelow
    exact hbelow.2
  · split at h
    · cases h
      exact Nat.succ_ne_zero _
    · cases h

theorem digits_firstGrid {i : Neighbourhood} {highest : Int} {fuel count : Nat} {x : Scientific}
    (h : firstGrid i highest fuel count = some x) : x.digits ≠ 0 := by
  induction fuel generalizing count with
  | zero => cases h
  | succ fuel ih =>
      unfold firstGrid at h
      split at h
      · next hgrid =>
        cases h
        exact digits_onGrid hgrid
      · exact ih h

/-- Zeros at the end are dropped, but not the digits in front of them. -/
theorem digits_normal {x : Scientific} (h : x.digits ≠ 0) (fuel : Nat) :
    (x.normal fuel).digits ≠ 0 := by
  induction fuel generalizing x with
  | zero => exact h
  | succ fuel ih =>
      unfold Scientific.normal
      split
      · next hzero =>
        simp only [Bool.and_eq_true, decide_eq_true_eq] at hzero
        exact ih (x := ⟨x.digits / 10, x.exponent + 1⟩) (by dsimp only; omega)
      · exact h

/-- The shortest digits of a number are not zero, unless there are none. -/
theorem digits_shortest (rank : Rank) :
    (shortest rank).digits ≠ 0 ∨ shortest rank = ⟨0, 0⟩ := by
  unfold shortest
  dsimp only
  split
  · next hgrid => exact .inl (digits_normal (digits_firstGrid hgrid) 20)
  · exact .inr rfl

/-- A number of binary64 is written as a well-formed number. -/
theorem wellFormed_of_ofBinary64 {x : Binary64} {n : Numeral} (h : Numeral.ofBinary64? x = some n) :
    n.WellFormed := by
  cases x with
  | nan => cases h
  | signed negative rank =>
      unfold Numeral.ofBinary64? at h
      dsimp only at h
      split at h
      · cases h
      · split at h
        · cases h
          exact ⟨by simp, by simp; rfl, by simp, by simp; rfl, by simp, by simp⟩
        · cases h
          refine wellFormed_ofDigits (natDigits_ne_nil _) (fun _ => isDigit_of_mem_natDigits) ?_
          intro hzero
          rcases digits_shortest rank with hdigits | hnone
          · exact absurd hzero (head_natDigits (Nat.pos_of_ne_zero hdigits))
          · rw [hnone]
            exact ⟨rfl, rfl⟩

/-! ## Reading whole numbers -/

/-- A whole number is read back. -/
theorem toNat_ofNat (n : Nat) : (Numeral.ofNat n).toNat? = some n := by
  simp [Numeral.toNat?, Numeral.ofNat, digitsValue_natDigits]

end HostVitals.Json
