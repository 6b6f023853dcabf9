import HostVitals.Number.Digits

/-!
# Styled text

Lines made of stretches of text, each in a style of its own.  On a terminal with colours a style
is switched on by the escape sequence with its codes and off by the one that resets all; without
colours the text alone is written.  Where a styled text itself resets all styles, its style is
switched on again.

Main results:

- `Span.write_plain`, `Span.write_colourless`: a plain stretch, and any stretch without colours,
  is its text.
-/

namespace HostVitals.Text

open HostVitals.Number

/-! ## Styles -/

/-- A style: the codes that switch it on, none for plain text. -/
abbrev Style := List Nat

namespace Style

/-- Plain text. -/
def plain : Style := []

/-- Bold letters. -/
def bold : Style := [1]

/-- Faint letters. -/
def dimmed : Style := [2]

/-- Red letters. -/
def red : Style := [31]

/-- Green letters. -/
def green : Style := [32]

/-- Yellow letters. -/
def yellow : Style := [33]

/-- Cyan letters. -/
def cyan : Style := [36]

/-- Bright cyan letters. -/
def brightCyan : Style := [96]

end Style

/-- The character that starts an escape sequence. -/
def escapeChar : Char := '\x1b'

/-- The codes of a style, with semicolons between them. -/
def codeText (style : Style) : List Char :=
  List.intercalate [';'] (style.map natDigits)

/-- The escape sequence that switches a style on. -/
def switchOn (style : Style) : List Char :=
  escapeChar :: '[' :: codeText style ++ ['m']

/-- The escape sequence that resets all styles. -/
def resetAll : List Char := [escapeChar, '[', '0', 'm']

/-- The text with `again` after every reset of all styles in it. -/
def restyle (again : List Char) : List Char → List Char
  | a :: b :: c :: d :: rest =>
    if [a, b, c, d] = resetAll then resetAll ++ again ++ restyle again rest
    else a :: restyle again (b :: c :: d :: rest)
  | cs => cs

/-! ## Stretches and lines -/

/-- A stretch of text in one style. -/
structure Span where
  style : Style
  text : List Char
  deriving DecidableEq

/-- A line of a display. -/
abbrev Line := List Span

/-- A stretch of plain text. -/
def say (text : String) : Span := ⟨.plain, text.toList⟩

/-- A stretch of text in a style. -/
def sayIn (style : Style) (text : String) : Span := ⟨style, text.toList⟩

/-- A stretch as it is written, with or without colours. -/
def Span.write (colours : Bool) (span : Span) : List Char :=
  if colours && !span.style.isEmpty then
    switchOn span.style ++ restyle (switchOn span.style) span.text ++ resetAll
  else span.text

/-- A line without its end. -/
def writeSpans (colours : Bool) (line : Line) : List Char :=
  line.flatMap (Span.write colours)

/-- Lines as they are written, each with a line feed after it. -/
def writeLines (colours : Bool) (lines : List Line) : List Char :=
  lines.flatMap (fun line => writeSpans colours line ++ ['\n'])

/-- A plain stretch is its text. -/
@[simp] theorem Span.write_plain (colours : Bool) (text : List Char) :
    Span.write colours ⟨.plain, text⟩ = text := by
  simp [Span.write, Style.plain]

/-- Without colours a stretch is its text. -/
@[simp] theorem Span.write_colourless (span : Span) : span.write false = span.text := by
  simp [Span.write]

end HostVitals.Text
