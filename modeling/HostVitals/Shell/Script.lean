/-!
# Shell scripts

The form of a script for the shell: commands made of words, and what joins them.  A word is a row
of parts, some of which stand for text that is only known when the script is run.
-/

namespace HostVitals.Shell

/-! ## Words -/

/-- A part of a word. -/
inductive Part where
  /-- Text that stands for itself, quoted or not. -/
  | literal (text : List Char) (quoted : Bool)
  | parameter (name : String) (quoted : Bool)
  /-- The number that an expression stands for. -/
  | arithmetic (expression : List Char) (quoted : Bool)
  | output (script : List Char) (quoted : Bool)
  deriving DecidableEq

/-- A word of a script. -/
abbrev Word := List Part

/-- The text of a word that has only unquoted text, such as the words of the grammar. -/
def plainText : Word → Option String
  | [.literal text false] => some (String.ofList text)
  | _ => none

/-! ## Commands -/

/-- Where a stream of a command is led. -/
inductive Target where
  /-- To a file, which is emptied unless the output is appended. -/
  | file (append : Bool) (path : Word)
  | source (path : Word)
  | copy (stream : Word)
  deriving DecidableEq

/-- A change of where a stream of a command leads. -/
structure Redirect where
  stream : Nat
  target : Target
  deriving DecidableEq

/-- A script. -/
inductive Script where
  | nothing
  /-- A command with assignments in front of it and changes of its streams. -/
  | command (assignments : List (String × Word)) (words : List Word) (redirects : List Redirect)
  /-- A script with changes of its streams. -/
  | redirected (body : Script) (redirects : List Redirect)
  /-- A script whose changes to the shell are forgotten. -/
  | apart (body : Script)
  /-- The output of the first is the input of the second. -/
  | pipe (left right : Script)
  /-- Success and failure exchanged. -/
  | negated (body : Script)
  /-- The second only after success of the first. -/
  | both (left right : Script)
  /-- The second only after failure of the first. -/
  | either (left right : Script)
  | sequence (left right : Script)
  /-- Done beside what follows. -/
  | background (body : Script)
  /-- One of two, after the outcome of a condition. -/
  | branch (condition yes no : Script)
  /-- Done again while the condition succeeds, or until it does. -/
  | loop (untilSuccess : Bool) (condition body : Script)
  /-- Done for each of several values of a parameter. -/
  | each (name : String) (values : List Word) (body : Script)

/-! ## Characters -/

/-- Whether a character may stand in a name. -/
def isNameChar (c : Char) : Bool :=
  c.isAlphanum || c == '_'

/-- Whether a text is a name: letters, digits and underscores, and no digit first. -/
def isName : List Char → Bool
  | [] => false
  | c :: rest => !c.isDigit && isNameChar c && rest.all isNameChar

/-- Whether a character is a blank of the shell. -/
def isShellBlank (c : Char) : Bool :=
  c == ' ' || c == '\t'

/-- Whether a character ends a word when it is not quoted. -/
def endsWord (c : Char) : Bool :=
  isShellBlank c || "\n;&|<>()".toList.contains c

end HostVitals.Shell
