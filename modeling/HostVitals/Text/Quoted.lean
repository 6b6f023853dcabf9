import HostVitals.Text.Hidden

/-!
# Quoted texts

A text between quotation marks, in which quotation marks, backslashes and characters that do not
show are written as escapes, so that the text can be told exactly.
-/

namespace HostVitals.Text

/-- The digits of a code point in base sixteen. -/
def hexText (code : Nat) : List Char :=
  Nat.toDigits 16 code

/-- A character inside of quotation marks. -/
def escapeInQuotes (c : Char) : List Char :=
  if c = '"' then ['\\', '"']
  else if c = '\\' then ['\\', '\\']
  else if c = '\x00' then ['\\', '0']
  else if c = '\t' then ['\\', 't']
  else if c = '\r' then ['\\', 'r']
  else if c = '\n' then ['\\', 'n']
  else if showsNothing c then ['\\', 'u', '\x7b'] ++ hexText c.toNat ++ ['\x7d']
  else [c]

/-- A text between quotation marks. -/
def quoted (cs : List Char) : List Char :=
  '"' :: cs.flatMap escapeInQuotes ++ ['"']

end HostVitals.Text
