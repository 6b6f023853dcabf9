/-!
# UTF-8

Bytes read as characters.  A byte that belongs to no character is kept in its place, so that a
reader may still find its way around it; a text is what holds no such byte.

Main results:

- `decode_eq_some_iff`: bytes are a text exactly when every symbol is a character.
-/

namespace HostVitals.Text.Utf8

/-- What stands at one place of a byte sequence: a character, or nothing for a stray byte. -/
abbrev Symbol := Option Char

/-- The payload of a continuation byte. -/
def continuation (b : UInt8) : Option Nat :=
  if 0x80 ≤ b && b ≤ 0xBF then some (b.toNat - 0x80) else none

/-- The character of a code point that needs at least `least` to be written this long. -/
def scalar (least code length : Nat) : Option (Char × Nat) :=
  if least ≤ code && code.isValidChar then some (Char.ofNat code, length) else none

/-- The character at the start of the bytes and how many bytes it takes. -/
def charAt : List UInt8 → Option (Char × Nat)
  | [] => none
  | a :: rest =>
    let lead := a.toNat
    if lead < 0x80 then some (Char.ofNat lead, 1)
    else if lead < 0xC0 then none
    else if lead < 0xE0 then
      match rest with
      | b :: _ => do
        let y ← continuation b
        scalar 0x80 ((lead - 0xC0) * 0x40 + y) 2
      | _ => none
    else if lead < 0xF0 then
      match rest with
      | b :: c :: _ => do
        let y ← continuation b
        let z ← continuation c
        scalar 0x800 (((lead - 0xE0) * 0x40 + y) * 0x40 + z) 3
      | _ => none
    else if lead < 0xF8 then
      match rest with
      | b :: c :: d :: _ => do
        let y ← continuation b
        let z ← continuation c
        let w ← continuation d
        scalar 0x10000 ((((lead - 0xF0) * 0x40 + y) * 0x40 + z) * 0x40 + w) 4
      | _ => none
    else none

/-- The symbols of the bytes after the first `used`, which belong to a character already read. -/
def symbolsAfter : Nat → List UInt8 → List Symbol
  | _, [] => []
  | used + 1, _ :: rest => symbolsAfter used rest
  | 0, b :: rest =>
    match charAt (b :: rest) with
    | some (c, length) => some c :: symbolsAfter (length - 1) rest
    | none => none :: symbolsAfter 0 rest

/-- The characters and stray bytes of a byte sequence. -/
def symbols (bytes : List UInt8) : List Symbol :=
  symbolsAfter 0 bytes

/-- The characters of a symbol sequence, when it holds no stray byte. -/
def characters : List Symbol → Option (List Char)
  | [] => some []
  | some c :: rest => (characters rest).map (c :: ·)
  | none :: _ => none

/-- The text of a byte sequence, when it holds no stray byte. -/
def decode (bytes : List UInt8) : Option (List Char) :=
  characters (symbols bytes)

/-- The bytes of a text. -/
def encode (cs : List Char) : List UInt8 :=
  cs.flatMap String.utf8EncodeChar

/-- Symbols are the characters of a text exactly when none of them is stray. -/
theorem characters_eq_some_iff (symbols : List Symbol) (cs : List Char) :
    characters symbols = some cs ↔ symbols = cs.map some := by
  induction symbols generalizing cs with
  | nil => cases cs <;> simp [characters]
  | cons s symbols ih =>
    cases s with
    | none => cases cs <;> simp [characters]
    | some c =>
      cases cs with
      | nil => simp [characters]
      | cons d cs =>
        simp only [characters, Option.map_eq_some_iff, ih, List.map_cons, List.cons.injEq,
          Option.some.injEq]
        constructor
        · rintro ⟨_, h, rfl, rfl⟩
          exact ⟨rfl, h⟩
        · rintro ⟨rfl, h⟩
          exact ⟨cs, h, rfl, rfl⟩

/-- Bytes are a text exactly when their symbols are its characters. -/
theorem decode_eq_some_iff (bytes : List UInt8) (cs : List Char) :
    decode bytes = some cs ↔ symbols bytes = cs.map some :=
  characters_eq_some_iff _ _

end HostVitals.Text.Utf8
