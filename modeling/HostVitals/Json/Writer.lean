import HostVitals.Json.Value

/-!
# Writing JSON documents

A value is written over several lines, each level indented by two more blanks.  An empty list or
object takes no lines of its own.
-/

namespace HostVitals.Json

open HostVitals.Number

/-! ## Texts and numbers -/

/-- The digits of a control character's code in hexadecimal, two of them. -/
def hexPair (code : Nat) : List Char :=
  [Nat.digitChar (code / 16), Nat.digitChar (code % 16)]

/-- The spelling of a character in a text. -/
def escape (c : Char) : List Char :=
  match c with
  | '"' => ['\\', '"']
  | '\\' => ['\\', '\\']
  | '\x08' => ['\\', 'b']
  | '\x0c' => ['\\', 'f']
  | '\n' => ['\\', 'n']
  | '\r' => ['\\', 'r']
  | '\t' => ['\\', 't']
  | c => if c.toNat < 0x20 then "\\u00".toList ++ hexPair c.toNat else [c]

/-- A text between quotation marks. -/
def quote (text : String) : List Char :=
  '"' :: text.toList.flatMap escape ++ ['"']

/-- A number as it is written. -/
def Numeral.text (n : Numeral) : List Char :=
  let sign := if n.negative then ['-'] else []
  let fraction := if n.fraction.isEmpty then [] else '.' :: n.fraction
  let exponent :=
    match n.exponent with
    | none => []
    | some e => 'e' :: (if e.negative then '-' else '+') :: e.digits
  sign ++ n.whole ++ fraction ++ exponent

/-! ## Values -/

/-- The start of a line at a level. -/
def lineStart (level : Nat) : List Char :=
  '\n' :: List.replicate (2 * level) ' '

mutual

/-- A value on the lines of a level. -/
def pretty (level : Nat) : Value → List Char
  | .null => "null".toList
  | .bool b => if b then "true".toList else "false".toList
  | .number n => n.text
  | .text t => quote (t.getD "")
  | .array [] => ['[', ']']
  | .array (item :: items) =>
    '[' :: lineStart (level + 1) ++ pretty (level + 1) item ++ prettyItems (level + 1) items
      ++ lineStart level ++ [']']
  | .object [] => ['\x7b', '\x7d']
  | .object (member :: members) =>
    '\x7b' :: lineStart (level + 1) ++ prettyMember (level + 1) member
      ++ prettyMembers (level + 1) members ++ lineStart level ++ ['\x7d']

/-- The further items of a list, each after a comma. -/
def prettyItems (level : Nat) : List Value → List Char
  | [] => []
  | item :: items => ',' :: lineStart level ++ pretty level item ++ prettyItems level items

/-- A member of an object. -/
def prettyMember (level : Nat) : Option String × Value → List Char
  | (key, value) => quote (key.getD "") ++ ':' :: ' ' :: pretty level value

/-- The further members of an object, each after a comma. -/
def prettyMembers (level : Nat) : List (Option String × Value) → List Char
  | [] => []
  | member :: members =>
    ',' :: lineStart level ++ prettyMember level member ++ prettyMembers level members

end

/-- A document with a value. -/
def Value.toText (value : Value) : String :=
  String.ofList (pretty 0 value)

end HostVitals.Json
