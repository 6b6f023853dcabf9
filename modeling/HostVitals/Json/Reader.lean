import HostVitals.Json.Value
import HostVitals.Text.Utf8

/-!
# Reading JSON documents

A document is one value with nothing but blanks around it.  Reading works on the characters and
stray bytes of a byte sequence; stray bytes may stand in texts alone.  The lengths of the input
bound the work, so every reader is total.
-/

namespace HostVitals.Json

open HostVitals.Number
open HostVitals.Text.Utf8 (Symbol)

/-- What a document is read from. -/
abbrev Source := List Symbol

/-! ## Blanks and words -/

/-- The four blanks that may stand between the parts of a document. -/
def isJsonBlank (s : Symbol) : Bool :=
  s == some ' ' || s == some '\n' || s == some '\t' || s == some '\r'

/-- The input after the blanks it starts with. -/
def skipBlanks (source : Source) : Source :=
  source.dropWhile isJsonBlank

/-- The input after a word that must stand at its start. -/
def skipWord : List Char → Source → Option Source
  | [], source => some source
  | c :: word, some d :: rest => if c = d then skipWord word rest else none
  | _ :: _, _ => none

/-! ## Numbers -/

/-- The digits that the input starts with, and what follows them. -/
def digitRun : Source → List Char × Source
  | some c :: rest =>
    if isDigit c then
      let (digits, rest) := digitRun rest
      (c :: digits, rest)
    else ([], some c :: rest)
  | source => ([], source)

/-- The digits after a point, if the input starts with one; there must be one digit at least. -/
def readFraction : Source → Option (List Char × Source)
  | some '.' :: rest =>
    let (digits, rest) := digitRun rest
    if digits.isEmpty then none else some (digits, rest)
  | source => some ([], source)

/-- The exponent, if the input starts with the mark of one; there must be one digit at least. -/
def readExponentPart (source : Source) : Option (Option Exponent × Source) :=
  let marked : Option Source :=
    match source with
    | some 'e' :: rest => some rest
    | some 'E' :: rest => some rest
    | _ => none
  match marked with
  | none => some (none, source)
  | some rest =>
    let (negative, rest) : Bool × Source :=
      match rest with
      | some '-' :: rest => (true, rest)
      | some '+' :: rest => (false, rest)
      | rest => (false, rest)
    let (digits, rest) := digitRun rest
    if digits.isEmpty then none else some (some ⟨negative, digits⟩, rest)

/-- A number at the start of the input. -/
def readNumeralPart (source : Source) : Option (Numeral × Source) := do
  let (negative, rest) : Bool × Source :=
    match source with
    | some '-' :: rest => (true, rest)
    | rest => (false, rest)
  let (whole, rest) := digitRun rest
  if whole.isEmpty || (whole.head? == some '0' && whole.length != 1) then none
  let (fraction, rest) ← readFraction rest
  let (exponent, rest) ← readExponentPart rest
  some (⟨negative, whole, fraction, exponent⟩, rest)

/-! ## Texts -/

/-- One element of the spelling of a text. -/
inductive TextUnit where
  /-- A character, written as it is or by an escape. -/
  | char (c : Char)
  /-- One half of a surrogate pair. -/
  | surrogate (code : Nat)
  /-- A byte that belongs to no character. -/
  | stray
  deriving DecidableEq

/-- The value of a hexadecimal digit. -/
def hexValue : Symbol → Option Nat
  | some c =>
    if isDigit c then some (digitValue c)
    else if 'a' ≤ c && c ≤ 'f' then some (c.toNat - 'a'.toNat + 10)
    else if 'A' ≤ c && c ≤ 'F' then some (c.toNat - 'A'.toNat + 10)
    else none
  | none => none

/-- The number that four hexadecimal digits stand for. -/
def hexCode (a b c d : Symbol) : Option Nat := do
  let w ← hexValue a
  let x ← hexValue b
  let y ← hexValue c
  let z ← hexValue d
  some (((w * 16 + x) * 16 + y) * 16 + z)

/-- The element that a sixteen-bit code stands for. -/
def unitOfCode (code : Nat) : TextUnit :=
  if 0xD800 ≤ code && code ≤ 0xDFFF then .surrogate code else .char (Char.ofNat code)

/-- The character of an escape of one letter. -/
def escapedChar : Char → Option Char
  | '"' => some '"'
  | '\\' => some '\\'
  | '/' => some '/'
  | 'b' => some '\x08'
  | 'f' => some '\x0c'
  | 'n' => some '\n'
  | 'r' => some '\r'
  | 't' => some '\t'
  | _ => none

/-- The spelling of a text up to the quotation mark that ends it. -/
def readUnits : Source → Option (List TextUnit × Source)
  | some '"' :: rest => some ([], rest)
  | some '\\' :: some 'u' :: a :: b :: c :: d :: rest => do
    let code ← hexCode a b c d
    let (units, rest) ← readUnits rest
    some (unitOfCode code :: units, rest)
  | some '\\' :: some letter :: rest => do
    let c ← escapedChar letter
    let (units, rest) ← readUnits rest
    some (.char c :: units, rest)
  | some '\\' :: _ => none
  | some c :: rest =>
    if c.toNat < 0x20 then none
    else do
      let (units, rest) ← readUnits rest
      some (.char c :: units, rest)
  | none :: rest => do
    let (units, rest) ← readUnits rest
    some (.stray :: units, rest)
  | [] => none

/-- The code point of a surrogate pair. -/
def pairCode (high low : Nat) : Nat :=
  0x10000 + (high - 0xD800) * 0x400 + (low - 0xDC00)

/-- The text that a spelling stands for.  Surrogates must come in pairs, the high one first. -/
def textOfUnits : List TextUnit → Option (List Char)
  | [] => some []
  | .char c :: units => (textOfUnits units).map (c :: ·)
  | .surrogate high :: .surrogate low :: units =>
    if high < 0xDC00 && 0xDC00 ≤ low then
      (textOfUnits units).map (Char.ofNat (pairCode high low) :: ·)
    else none
  | .surrogate _ :: _ => none
  | .stray :: _ => none

/-- A text after the quotation mark that starts it. -/
def readText (source : Source) : Option (Option String × Source) :=
  (readUnits source).map (fun (units, rest) => ((textOfUnits units).map String.ofList, rest))

/-! ## Values -/

mutual

/-- A value after the blanks at the start of the input. -/
def readValue : Nat → Source → Option (Value × Source)
  | 0, _ => none
  | fuel + 1, source =>
    match skipBlanks source with
    | some '\x7b' :: rest =>
      match skipBlanks rest with
      | some '\x7d' :: rest => some (.object [], rest)
      | rest => (readMembers fuel rest).map (fun (members, rest) => (.object members, rest))
    | some '[' :: rest =>
      match skipBlanks rest with
      | some ']' :: rest => some (.array [], rest)
      | rest => (readItems fuel rest).map (fun (items, rest) => (.array items, rest))
    | some '"' :: rest => (readText rest).map (fun (text, rest) => (.text text, rest))
    | some 'n' :: rest => (skipWord "ull".toList rest).map (fun rest => (.null, rest))
    | some 't' :: rest => (skipWord "rue".toList rest).map (fun rest => (.bool true, rest))
    | some 'f' :: rest => (skipWord "alse".toList rest).map (fun rest => (.bool false, rest))
    | rest => (readNumeralPart rest).map (fun (n, rest) => (.number n, rest))

/-- The items of a list that is not empty, up to the bracket that ends it. -/
def readItems : Nat → Source → Option (List Value × Source)
  | 0, _ => none
  | fuel + 1, source => do
    let (item, rest) ← readValue fuel source
    match skipBlanks rest with
    | some ',' :: rest =>
      let (items, rest) ← readItems fuel rest
      some (item :: items, rest)
    | some ']' :: rest => some ([item], rest)
    | _ => none

/-- The members of an object that is not empty, up to the brace that ends it. -/
def readMembers : Nat → Source → Option (List (Option String × Value) × Source)
  | 0, _ => none
  | fuel + 1, source =>
    match skipBlanks source with
    | some '"' :: rest => do
      let (key, rest) ← readText rest
      match skipBlanks rest with
      | some ':' :: rest =>
        let (value, rest) ← readValue fuel rest
        match skipBlanks rest with
        | some ',' :: rest =>
          let (members, rest) ← readMembers fuel rest
          some ((key, value) :: members, rest)
        | some '\x7d' :: rest => some ([(key, value)], rest)
        | _ => none
      | _ => none
    | _ => none

end

/-- The value of a document. -/
def document (source : Source) : Option Value :=
  match readValue (source.length + 1) source with
  | some (value, rest) => if (skipBlanks rest).isEmpty then some value else none
  | none => none

/-- The value of a document given as a text. -/
def ofText (text : String) : Option Value :=
  document (text.toList.map some)

/-- The value of a document given as bytes. -/
def ofBytes (bytes : List UInt8) : Option Value :=
  document (Text.Utf8.symbols bytes)

end HostVitals.Json
