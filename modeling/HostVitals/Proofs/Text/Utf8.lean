import HostVitals.Text.Utf8

/-!
# Texts as bytes

Each character has one spelling in bytes, and reading finds exactly these spellings: the bytes of a
text are read back as the text, and bytes that are read as a text are the bytes of that text.

Main results:

- `charAt_append`, `eq_of_charAt`: a character is read exactly where its bytes stand.
- `symbols_encode`: the bytes of a text are read back.
- `decode_eq_some_iff_eq_encode`: bytes are a text exactly when they are the bytes of it.
-/

namespace HostVitals.Text.Utf8

/-! ## Continuation bytes and code points -/

theorem continuation_eq {b : UInt8} :
    continuation b = if 0x80 ≤ b.toNat ∧ b.toNat ≤ 0xBF then some (b.toNat - 0x80) else none := by
  have hleast : 0x80 ≤ b ↔ 0x80 ≤ b.toNat := UInt8.le_iff_toNat_le
  have hgreatest : b ≤ 0xBF ↔ b.toNat ≤ 0xBF := UInt8.le_iff_toNat_le
  simp only [continuation, Bool.and_eq_true, decide_eq_true_eq, hleast, hgreatest]

theorem toNat_ofNat_of_lt {n : Nat} (h : n < 0x100) : (UInt8.ofNat n).toNat = n := by
  rw [UInt8.toNat_ofNat']
  omega

theorem continuation_ofNat {n : Nat} (h : n < 0x40) :
    continuation (UInt8.ofNat (n + 0x80)) = some n := by
  rw [continuation_eq, toNat_ofNat_of_lt (by omega), if_pos (by omega), Nat.add_sub_cancel]

theorem eq_of_continuation {b : UInt8} {n : Nat} (h : continuation b = some n) :
    n < 0x40 ∧ b = UInt8.ofNat (n + 0x80) := by
  rw [continuation_eq] at h
  split at h
  · next hrange =>
    obtain rfl := Option.some.inj h
    refine ⟨by omega, UInt8.toNat.inj ?_⟩
    rw [toNat_ofNat_of_lt (by omega)]
    omega
  · cases h

theorem toNat_ofNat_of_valid {code : Nat} (h : code.isValidChar) :
    (Char.ofNat code).toNat = code := by
  rw [Char.ofNat, dif_pos h]
  rfl

/-- A code point is read when it is that of a character, and has to be written this long. -/
theorem scalar_eq_some_iff {least code length n : Nat} {c : Char} :
    scalar least code length = some (c, n) ↔ code = c.toNat ∧ least ≤ c.toNat ∧ n = length := by
  unfold scalar
  constructor
  · intro h
    split at h
    · next hvalid =>
      simp only [Bool.and_eq_true, decide_eq_true_eq] at hvalid
      simp only [Option.some.injEq, Prod.mk.injEq] at h
      obtain ⟨rfl, rfl⟩ := h
      rw [toNat_ofNat_of_valid hvalid.2]
      exact ⟨rfl, hvalid.1, rfl⟩
    · cases h
  · rintro ⟨rfl, hleast, rfl⟩
    have hvalid : c.toNat.isValidChar := c.valid
    simp [hleast, hvalid]

/-! ## Characters -/

/-- The greatest code point of a character takes twenty-one bits. -/
theorem toNat_le (c : Char) : c.toNat ≤ 0x10FFFF := by
  have hvalid : c.toNat.isValidChar := c.valid
  unfold Nat.isValidChar at hvalid
  omega

/-- Six bits and the rest of them make up a number. -/
theorem join_bits (n : Nat) : n / 0x40 * 0x40 + n % 0x40 = n :=
  Nat.div_add_mod' n 0x40

theorem div_bits (n k : Nat) : n / (0x40 * k) = n / 0x40 / k :=
  (Nat.div_div_eq_div_mul n 0x40 k).symm

/-- The bytes of a character are read as it. -/
theorem charAt_append (c : Char) (rest : List UInt8) :
    charAt (String.utf8EncodeChar c ++ rest) = some (c, (String.utf8EncodeChar c).length) := by
  have hgreatest := toNat_le c
  have hcode : c.val.toNat = c.toNat := rfl
  simp only [String.utf8EncodeChar, hcode]
  split
  · next hone =>
    simp only [List.cons_append, List.nil_append, charAt, List.length_cons, List.length_nil]
    rw [toNat_ofNat_of_lt (by omega), if_pos (by omega), Char.ofNat_toNat]
  · split
    · next hone htwo =>
      simp only [List.cons_append, List.nil_append, charAt, List.length_cons, List.length_nil,
        Nat.add_assoc]
      rw [toNat_ofNat_of_lt (by omega), if_neg (by omega), if_neg (by omega), if_pos (by omega),
        continuation_ofNat (by omega), Option.bind_eq_bind, Option.bind_some, scalar_eq_some_iff]
      omega
    · split
      · next hone htwo hthree =>
        simp only [List.cons_append, List.nil_append, charAt, List.length_cons, List.length_nil]
        rw [toNat_ofNat_of_lt (by omega), if_neg (by omega), if_neg (by omega), if_neg (by omega),
          if_pos (by omega), continuation_ofNat (by omega), continuation_ofNat (by omega)]
        simp only [Option.bind_eq_bind, Option.bind_some, scalar_eq_some_iff]
        refine ⟨?_, by omega, trivial⟩
        rw [Nat.add_sub_cancel, Nat.mod_eq_of_lt (by omega : c.toNat / 4096 < 16),
          div_bits c.toNat 0x40, join_bits, join_bits]
      · next hone htwo hthree =>
        simp only [List.cons_append, List.nil_append, charAt, List.length_cons, List.length_nil]
        rw [toNat_ofNat_of_lt (by omega), if_neg (by omega), if_neg (by omega), if_neg (by omega),
          if_neg (by omega), if_pos (by omega), continuation_ofNat (by omega),
          continuation_ofNat (by omega), continuation_ofNat (by omega)]
        simp only [Option.bind_eq_bind, Option.bind_some, scalar_eq_some_iff]
        refine ⟨?_, by omega, trivial⟩
        rw [Nat.add_sub_cancel, Nat.mod_eq_of_lt (by omega : c.toNat / 262144 < 8),
          div_bits c.toNat 0x1000, div_bits (c.toNat / 0x40) 0x40, div_bits c.toNat 0x40, join_bits,
          join_bits, join_bits]

/-- A character is read only where its bytes stand. -/
theorem eq_of_charAt {bytes : List UInt8} {c : Char} {length : Nat}
    (h : charAt bytes = some (c, length)) :
    ∃ rest, bytes = String.utf8EncodeChar c ++ rest ∧
      length = (String.utf8EncodeChar c).length := by
  have hcode : c.val.toNat = c.toNat := rfl
  simp only [String.utf8EncodeChar, hcode]
  rcases bytes with _ | ⟨lead, rest⟩
  · cases h
  simp only [charAt] at h
  split at h
  · next hone =>
    simp only [Option.some.injEq, Prod.mk.injEq] at h
    obtain ⟨rfl, rfl⟩ := h
    have hvalue : (Char.ofNat lead.toNat).toNat = lead.toNat :=
      toNat_ofNat_of_valid (.inl (by omega))
    rw [hvalue, if_pos (by omega), UInt8.ofNat_toNat]
    exact ⟨rest, rfl, rfl⟩
  split at h
  · cases h
  split at h
  · next htwo =>
    rcases rest with _ | ⟨second, rest⟩
    · cases h
    simp only [Option.bind_eq_bind, Option.bind_eq_some_iff, scalar_eq_some_iff] at h
    obtain ⟨y, hy, hvalue, hleast, rfl⟩ := h
    obtain ⟨hlow, rfl⟩ := eq_of_continuation hy
    rw [if_neg (by omega), if_pos (by omega), ← hvalue]
    refine ⟨rest, ?_, rfl⟩
    have hlead : ((lead.toNat - 0xC0) * 0x40 + y) / 64 % 0x20 + 0xC0 = lead.toNat := by omega
    have hsecond : ((lead.toNat - 0xC0) * 0x40 + y) % 0x40 = y := by omega
    rw [hlead, hsecond, UInt8.ofNat_toNat]
    rfl
  split at h
  · next hthree =>
    rcases rest with _ | ⟨second, _ | ⟨third, rest⟩⟩
    · cases h
    · cases h
    simp only [Option.bind_eq_bind, Option.bind_eq_some_iff, scalar_eq_some_iff] at h
    obtain ⟨y, hy, z, hz, hvalue, hleast, rfl⟩ := h
    obtain ⟨hylow, rfl⟩ := eq_of_continuation hy
    obtain ⟨hzlow, rfl⟩ := eq_of_continuation hz
    rw [if_neg (by omega), if_neg (by omega), if_pos (by omega), ← hvalue]
    refine ⟨rest, ?_, rfl⟩
    generalize hm : lead.toNat - 0xE0 = m
    have hlead : ((m * 0x40 + y) * 0x40 + z) / 4096 % 0x10 + 0xE0 = lead.toNat := by omega
    have hsecond : ((m * 0x40 + y) * 0x40 + z) / 64 % 0x40 = y := by omega
    have hthird : ((m * 0x40 + y) * 0x40 + z) % 0x40 = z := by omega
    rw [hlead, hsecond, hthird, UInt8.ofNat_toNat]
    rfl
  split at h
  · next hfour =>
    rcases rest with _ | ⟨second, _ | ⟨third, _ | ⟨fourth, rest⟩⟩⟩
    · cases h
    · cases h
    · cases h
    simp only [Option.bind_eq_bind, Option.bind_eq_some_iff, scalar_eq_some_iff] at h
    obtain ⟨y, hy, z, hz, w, hw, hvalue, hleast, rfl⟩ := h
    obtain ⟨hylow, rfl⟩ := eq_of_continuation hy
    obtain ⟨hzlow, rfl⟩ := eq_of_continuation hz
    obtain ⟨hwlow, rfl⟩ := eq_of_continuation hw
    have hgreatest := toNat_le c
    rw [if_neg (by omega), if_neg (by omega), if_neg (by omega), ← hvalue]
    refine ⟨rest, ?_, rfl⟩
    generalize hm : lead.toNat - 0xF0 = m
    have hlead : (((m * 0x40 + y) * 0x40 + z) * 0x40 + w) / 262144 % 0x08 + 0xF0 = lead.toNat := by
      omega
    have hsecond : (((m * 0x40 + y) * 0x40 + z) * 0x40 + w) / 4096 % 0x40 = y := by omega
    have hthird : (((m * 0x40 + y) * 0x40 + z) * 0x40 + w) / 64 % 0x40 = z := by omega
    have hfourth : (((m * 0x40 + y) * 0x40 + z) * 0x40 + w) % 0x40 = w := by omega
    rw [hlead, hsecond, hthird, hfourth, UInt8.ofNat_toNat]
    rfl
  · cases h

/-! ## Texts -/

/-- What belongs to a character that was read is passed over. -/
theorem symbolsAfter_append (bytes rest : List UInt8) :
    symbolsAfter bytes.length (bytes ++ rest) = symbols rest := by
  induction bytes with
  | nil => rfl
  | cons b bytes ih => exact ih

/-- The symbols of bytes that start with a character. -/
theorem symbols_append (c : Char) (rest : List UInt8) :
    symbols (String.utf8EncodeChar c ++ rest) = some c :: symbols rest := by
  have hread := charAt_append c rest
  rcases hbytes : String.utf8EncodeChar c with _ | ⟨lead, bytes⟩
  · have hlength := String.length_utf8EncodeChar c
    rw [hbytes] at hlength
    exact absurd hlength.symm (Nat.ne_of_gt c.utf8Size_pos)
  · rw [hbytes] at hread
    simp only [symbols, symbolsAfter, List.cons_append] at hread ⊢
    rw [hread]
    exact congrArg _ (symbolsAfter_append bytes rest)

/-- A byte of the lower half is a character by itself. -/
theorem symbols_cons_of_lt {b : UInt8} (h : b.toNat < 0x80) (bytes : List UInt8) :
    symbols (b :: bytes) = some (Char.ofNat b.toNat) :: symbols bytes := by
  simp [symbols, symbolsAfter, charAt, h]

/-- The bytes of a text are read back. -/
theorem symbols_encode (cs : List Char) : symbols (encode cs) = cs.map some := by
  induction cs with
  | nil => rfl
  | cons c cs ih =>
      rw [encode, List.flatMap_cons, symbols_append]
      exact congrArg _ ih

/-- Bytes that are read as characters are the bytes of these. -/
theorem eq_encode_of_symbols {bytes : List UInt8} {cs : List Char}
    (h : symbols bytes = cs.map some) : bytes = encode cs := by
  induction cs generalizing bytes with
  | nil =>
      rcases bytes with _ | ⟨b, bytes⟩
      · rfl
      · simp only [symbols, symbolsAfter] at h
        split at h <;> cases h
  | cons c cs ih =>
      rcases bytes with _ | ⟨b, bytes⟩
      · cases h
      cases hread : charAt (b :: bytes) with
      | none =>
          simp only [symbols, symbolsAfter, hread] at h
          cases h
      | some found =>
          obtain ⟨d, length⟩ := found
          obtain ⟨rest, hbytes, -⟩ := eq_of_charAt hread
          rw [hbytes, symbols_append] at h
          simp only [List.map_cons, List.cons.injEq, Option.some.injEq] at h
          obtain ⟨rfl, hrest⟩ := h
          rw [hbytes, ih hrest]
          rfl

/-- Bytes are a text exactly when they are the bytes of it. -/
theorem decode_eq_some_iff_eq_encode {bytes : List UInt8} {cs : List Char} :
    decode bytes = some cs ↔ bytes = encode cs := by
  rw [decode_eq_some_iff]
  constructor
  · exact eq_encode_of_symbols
  · rintro rfl
    exact symbols_encode cs

end HostVitals.Text.Utf8
