import HostVitals.Proofs.Json.Numerals
import HostVitals.Proofs.Number.Unsigned

/-!
# Signed numerals

A numeral for a signed machine integer is one digit or more, with a sign in front or without one.
It is read when its number lies in the range of the type, and otherwise it is not read at all,
however many digits it has; nothing wraps around.

Main results:

- `readSigned_eq_some_iff`: exactly which texts are read, and as which numbers.
- `readSigned_of_isSigned`: a numeral is read unless its number is out of range.
- `filter_readSigned`: a lower limit may be raised after reading.
- `isSigned_writtenInt`: whole numbers written in decimal are such numerals.
-/

namespace HostVitals.Number

section

variable {text : List Char} {n : Int}

/-- The text is digits for the number, with a sign in front or without one. -/
inductive IsSigned : List Char → Int → Prop
  | plain {digits : List Char} {n : Nat} (h : IsDigits digits n) : IsSigned digits n
  | plus {digits : List Char} {n : Nat} (h : IsDigits digits n) : IsSigned ('+' :: digits) n
  | minus {digits : List Char} {n : Nat} (h : IsDigits digits n) : IsSigned ('-' :: digits) (-n)

/-! ## Reading -/

/-- A minus sign is no digit. -/
theorem not_isDigits_minus (rest : List Char) (n : Nat) : ¬IsDigits ('-' :: rest) n := by
  intro h
  exact absurd (h.digits '-' List.mem_cons_self) (by decide)

theorem isSigned_plus_iff {digits : List Char} :
    IsSigned ('+' :: digits) n ↔ ∃ m, IsDigits digits m ∧ (m : Int) = n := by
  constructor
  · intro h
    cases h with
    | plain h => exact absurd h (not_isDigits_plus digits _)
    | plus h => exact ⟨_, h, rfl⟩
  · rintro ⟨m, h, rfl⟩
    exact .plus h

theorem isSigned_minus_iff {digits : List Char} :
    IsSigned ('-' :: digits) n ↔ ∃ m, IsDigits digits m ∧ -(m : Int) = n := by
  constructor
  · intro h
    cases h with
    | plain h => exact absurd h (not_isDigits_minus digits _)
    | minus h => exact ⟨_, h, rfl⟩
  · rintro ⟨m, h, rfl⟩
    exact .minus h

/-- A text without a sign is a numeral when it is digits. -/
theorem isSigned_plain_iff (hplus : ∀ rest, text ≠ '+' :: rest)
    (hminus : ∀ rest, text ≠ '-' :: rest) :
    IsSigned text n ↔ ∃ m, IsDigits text m ∧ (m : Int) = n := by
  constructor
  · intro h
    cases h with
    | plain h => exact ⟨_, h, rfl⟩
    | plus h => exact absurd rfl (hplus _)
    | minus h => exact absurd rfl (hminus _)
  · rintro ⟨m, h, rfl⟩
    exact .plain h

/-- A text is read as a signed number exactly when it is a numeral for it, and the number lies
between the limits. -/
theorem readSigned_eq_some_iff {least greatest : Int} :
    readSigned least greatest text = some n ↔ IsSigned text n ∧ least ≤ n ∧ n ≤ greatest := by
  simp only [readSigned, Option.filter_eq_some_iff, Bool.and_eq_true, decide_eq_true_eq]
  refine and_congr_left fun _ => ?_
  split
  · simp only [isSigned_minus_iff, Option.map_eq_some_iff, Option.bind_eq_bind,
      Option.bind_eq_some_iff, Option.pure_def, Option.some.injEq, readDigits_eq_some_iff]
    constructor
    · rintro ⟨_, ⟨m, h, rfl⟩, rfl⟩
      exact ⟨m, h, rfl⟩
    · rintro ⟨m, h, rfl⟩
      exact ⟨m, ⟨m, h, rfl⟩, rfl⟩
  · simp [isSigned_plus_iff, readDigits_eq_some_iff]
  · next hminus hplus => simp [isSigned_plain_iff hplus hminus, readDigits_eq_some_iff]

/-- A numeral stands for one number. -/
theorem IsSigned.unique {m : Int} (hm : IsSigned text m) (hn : IsSigned text n) : m = n := by
  have hread : readSigned (min m n) (max m n) text = some m :=
    readSigned_eq_some_iff.2 ⟨hm, Int.min_le_left m n, Int.le_max_left m n⟩
  rw [readSigned_eq_some_iff.2 ⟨hn, Int.min_le_right m n, Int.le_max_right m n⟩] at hread
  exact (Option.some.inj hread).symm

/-- A numeral is read, unless its number is out of range. -/
theorem readSigned_of_isSigned (h : IsSigned text n) (least greatest : Int) :
    readSigned least greatest text = if least ≤ n ∧ n ≤ greatest then some n else none := by
  split
  · next hrange => exact readSigned_eq_some_iff.2 ⟨h, hrange⟩
  · next hrange =>
      rw [Option.eq_none_iff_forall_ne_some]
      intro m hread
      obtain ⟨hm, hbounds⟩ := readSigned_eq_some_iff.1 hread
      rw [hm.unique h] at hbounds
      exact hrange hbounds

/-- A lower limit raised afterwards is a limit from the start. -/
theorem filter_readSigned (least greatest limit : Int) (text : List Char) :
    (readSigned least greatest text).filter (fun n => decide (limit ≤ n)) =
      readSigned (max least limit) greatest text := by
  apply Option.ext
  intro n
  simp only [Option.filter_eq_some_iff, readSigned_eq_some_iff, decide_eq_true_eq, Int.max_le]
  constructor
  · rintro ⟨⟨h, hleast, hgreatest⟩, hlimit⟩
    exact ⟨h, ⟨hleast, hlimit⟩, hgreatest⟩
  · rintro ⟨h, ⟨hleast, hlimit⟩, hgreatest⟩
    exact ⟨⟨h, hleast, hgreatest⟩, hlimit⟩

end

/-! ## Writing -/

/-- Zeros in front of the digits of a number change nothing. -/
theorem isDigits_zeros (zeros n : Nat) :
    IsDigits (List.replicate zeros '0' ++ natDigits n) n where
  nonempty := by simp [natDigits_ne_nil]
  digits := by
    intro c hc
    rcases List.mem_append.1 hc with hzero | hdigit
    · rw [List.eq_of_mem_replicate hzero]
      decide
    · exact isDigit_of_mem_natDigits hdigit
  value := by
    induction zeros with
    | zero => exact digitsValue_natDigits n
    | succ zeros ih => exact ih

/-- A whole number in decimal, with a minus sign when it is below zero, and with zeros in front of
its digits. -/
def writtenInt (zeros : Nat) (n : Int) : List Char :=
  let digits := List.replicate zeros '0' ++ natDigits n.natAbs
  if n < 0 then '-' :: digits else digits

/-- What is written is a numeral for the number. -/
theorem isSigned_writtenInt (zeros : Nat) (n : Int) : IsSigned (writtenInt zeros n) n := by
  have hdigits := isDigits_zeros zeros n.natAbs
  unfold writtenInt
  dsimp only
  split
  · exact isSigned_minus_iff.2 ⟨n.natAbs, hdigits, by omega⟩
  · have hvalue : (n.natAbs : Int) = n := by omega
    have hplain := IsSigned.plain hdigits
    rwa [hvalue] at hplain

end HostVitals.Number
