import HostVitals.Text.Utf8

/-!
# Backslash escapes in outputs

Texts that commands write may hold escapes: a backslash with a letter, or with the digits of a
byte in base eight.
-/

namespace HostVitals.Shell

open HostVitals.Text

/-- The byte that a backslash with a letter stands for. -/
def escapedByte : Char → Option UInt8
  | 'a' => some 7
  | 'b' => some 8
  | 'f' => some 12
  | 'n' => some 10
  | 'r' => some 13
  | 't' => some 9
  | 'v' => some 11
  | '\\' => some 92
  | _ => none

/-- Whether a character is a digit of base eight. -/
def isOctal (c : Char) : Bool :=
  '0' ≤ c && c ≤ '7'

/-- The byte with the given digits in base eight. -/
def octalByte (digits : List Char) : UInt8 :=
  UInt8.ofNat (digits.foldl (fun n c => n * 8 + (c.toNat - '0'.toNat)) 0)

/-- At most `most` digits in base eight at the start of a text. -/
def octalRun (most : Nat) (cs : List Char) : List Char :=
  (cs.take most).takeWhile isOctal

/-- How escapes are read. -/
structure EscapeRules where
  /-- Whether the digits of a byte may come after an additional zero. -/
  leadingZero : Bool
  /-- Whether a backslash with `c` ends the text. -/
  stops : Bool

/-- What comes after a backslash: bytes, the number of characters that they take, and whether the
text ends there. -/
def readEscape (rules : EscapeRules) (cs : List Char) : List UInt8 × Nat × Bool :=
  match cs with
  | [] => ([92], 0, false)
  | c :: rest =>
    if rules.stops && c = 'c' then ([], 1, true)
    else if rules.leadingZero && c = '0' then
      let digits := octalRun 3 rest
      ([octalByte digits], digits.length + 1, false)
    else if isOctal c then
      let digits := octalRun 3 cs
      ([octalByte digits], digits.length, false)
    else
      match escapedByte c with
      | some b => ([b], 1, false)
      | none => (92 :: Utf8.encode [c], 1, false)

/-- The bytes of a text with escapes, where `skip` characters have been read already, and whether
the text ends before its last character. -/
def unescapeFrom (rules : EscapeRules) : Nat → List Char → List UInt8 × Bool
  | _, [] => ([], false)
  | skip + 1, _ :: rest => unescapeFrom rules skip rest
  | 0, c :: rest =>
    if c = '\\' then
      let (bytes, used, stopped) := readEscape rules rest
      if stopped then (bytes, true)
      else
        let (others, stopped) := unescapeFrom rules used rest
        (bytes ++ others, stopped)
    else
      let (others, stopped) := unescapeFrom rules 0 rest
      (Utf8.encode [c] ++ others, stopped)

/-- The bytes of a text with escapes. -/
def unescape (rules : EscapeRules) (cs : List Char) : List UInt8 × Bool :=
  unescapeFrom rules 0 cs

end HostVitals.Shell
