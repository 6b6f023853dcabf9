import HostVitals.Number.Digits

/-!
# Unsigned numerals

A numeral for an unsigned machine integer is one digit or more, with a plus sign in front or without
one.  It is read when its number lies in the range of the type, however many digits it has; nothing
wraps around.

Main results:

- `readUnsigned_eq_some_iff`: exactly which texts are read, and as which numbers.
- `counts_readUInt32`: a count of 32 bits, zero when the text holds none.
-/

namespace HostVitals.Number

/-- The text is digits alone, one at least, and these stand for the number. -/
structure IsDigits (text : List Char) (n : Nat) : Prop where
  nonempty : text ≠ []
  digits : ∀ c ∈ text, isDigit c = true
  value : digitsValue text = n

/-- The text is digits for the number, with a plus sign in front or without one. -/
def IsUnsigned (text : List Char) (n : Nat) : Prop :=
  IsDigits text n ∨ ∃ digits, text = '+' :: digits ∧ IsDigits digits n

theorem readDigits_eq_some_iff {text : List Char} {n : Nat} :
    readDigits text = some n ↔ IsDigits text n := by
  have hread : readDigits text = some n ↔
      (text ≠ [] ∧ ∀ c ∈ text, isDigit c = true) ∧ digitsValue text = n := by
    simp [readDigits]
  rw [hread]
  exact ⟨fun h => ⟨h.1.1, h.1.2, h.2⟩, fun h => ⟨⟨h.nonempty, h.digits⟩, h.value⟩⟩

/-- A plus sign is no digit. -/
theorem not_isDigits_plus (rest : List Char) (n : Nat) : ¬IsDigits ('+' :: rest) n := by
  intro h
  exact absurd (h.digits '+' List.mem_cons_self) (by decide)

/-- A text is read as an unsigned number exactly when it is a numeral for it, and the number does
not exceed the limit. -/
theorem readUnsigned_eq_some_iff {greatest n : Nat} {text : List Char} :
    readUnsigned greatest text = some n ↔ IsUnsigned text n ∧ n ≤ greatest := by
  simp only [readUnsigned, Option.filter_eq_some_iff, decide_eq_true_eq, readDigits_eq_some_iff]
  refine and_congr_left fun _ => ?_
  split
  · next rest => simp [IsUnsigned, not_isDigits_plus]
  · next hplain =>
      refine ⟨.inl, ?_⟩
      rintro (h | ⟨digits, htext, -⟩)
      · exact h
      · exact absurd htext (hplain digits)

/-- The text is the count, or the count is zero because the text is no numeral or one whose number
does not fit into 32 bits. -/
inductive Counts (text : List Char) : UInt32 → Prop
  | number {count : UInt32} (h : IsUnsigned text count.toNat) : Counts text count
  | nothing (h : ∀ n, IsUnsigned text n → UInt32.size ≤ n) : Counts text 0

/-- A text that is read as a number of 32 bits, or as zero, gives its count. -/
theorem counts_readUInt32 (text : List Char) : Counts text ((readUInt32 text).getD 0) := by
  unfold readUInt32
  cases hread : readUnsigned 0xffffffff text with
  | none =>
      refine .nothing fun n hn => Nat.le_of_not_lt fun hlt => ?_
      have hle : n ≤ 0xffffffff := Nat.le_of_lt_succ hlt
      rw [readUnsigned_eq_some_iff.2 ⟨hn, hle⟩] at hread
      cases hread
  | some n =>
      obtain ⟨hn, hle⟩ := readUnsigned_eq_some_iff.1 hread
      have hlt : n < UInt32.size := Nat.lt_succ_of_le hle
      refine .number ?_
      rw [Option.map_some, Option.getD_some, UInt32.toNat_ofNat_of_lt' hlt]
      exact hn

end HostVitals.Number
