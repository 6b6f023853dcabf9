import HostVitals.Number.Digits
import HostVitals.Shell.Script

/-!
# Arithmetic in scripts

Expressions of whole numbers, with the usual operators and their usual binding.  A name stands for
the number that its value is; a name without a value stands for zero.
-/

namespace HostVitals.Shell.Arithmetic

open HostVitals.Number

/-! ## Symbols -/

/-- A symbol of an expression. -/
inductive Symbol where
  | number (n : Int)
  /-- A name, which stands for a number. -/
  | name (name : String)
  | operator (text : String)
  deriving DecidableEq

/-- The operators and parentheses, longer ones first. -/
def operators : List String :=
  ["||", "&&", "==", "!=", "<=", ">=", "<", ">", "+", "-", "*", "/", "%", "!", "(", ")"]

/-- Whether a character of an expression is passed over. -/
def isPassedOver (c : Char) : Bool :=
  isShellBlank c || "\n$\x7b\x7d".toList.contains c

/-- The symbols of an expression. -/
def readSymbols : Nat → List Char → Option (List Symbol)
  | 0, _ => none
  | _ + 1, [] => some []
  | fuel + 1, c :: rest =>
    let cs := c :: rest
    if isPassedOver c then readSymbols fuel rest
    else if isDigit c then
      (readSymbols fuel (cs.dropWhile isDigit)).map
        (.number (digitsValue (cs.takeWhile isDigit)) :: ·)
    else if isNameChar c then
      (readSymbols fuel (cs.dropWhile isNameChar)).map
        (.name (String.ofList (cs.takeWhile isNameChar)) :: ·)
    else
      match operators.find? (fun text => text.toList.isPrefixOf cs) with
      | some text => (readSymbols fuel (cs.drop text.length)).map (.operator text :: ·)
      | none => none

/-! ## Operators -/

/-- How tightly an operator between two numbers binds. -/
def binding : String → Option Nat
  | "||" => some 1
  | "&&" => some 2
  | "==" | "!=" => some 3
  | "<" | "<=" | ">" | ">=" => some 4
  | "+" | "-" => some 5
  | "*" | "/" | "%" => some 6
  | _ => none

/-- The number for a truth value. -/
def truth (b : Bool) : Int :=
  if b then 1 else 0

/-- The result of an operator between two numbers. -/
def apply : String → Int → Int → Option Int
  | "||", a, b => some (truth (a != 0 || b != 0))
  | "&&", a, b => some (truth (a != 0 && b != 0))
  | "==", a, b => some (truth (a == b))
  | "!=", a, b => some (truth (a != b))
  | "<", a, b => some (truth (decide (a < b)))
  | "<=", a, b => some (truth (decide (a ≤ b)))
  | ">", a, b => some (truth (decide (b < a)))
  | ">=", a, b => some (truth (decide (b ≤ a)))
  | "+", a, b => some (a + b)
  | "-", a, b => some (a - b)
  | "*", a, b => some (a * b)
  | "/", a, b => if b = 0 then none else some (Int.tdiv a b)
  | "%", a, b => if b = 0 then none else some (Int.tmod a b)
  | _, _, _ => none

/-! ## Values -/

/-- The number that a value of a name is. -/
def numberOfValue (value : String) : Option Int :=
  if value.isEmpty then some 0 else readInt64 value.toList

mutual

/-- The number that the symbols start with, and the symbols that follow. -/
def readOperand (value : String → String) :
    Nat → List Symbol → Option (Int × List Symbol)
  | 0, _ => none
  | fuel + 1, symbols =>
    match symbols with
    | .number n :: rest => some (n, rest)
    | .name name :: rest => (numberOfValue (value name)).map (fun n => (n, rest))
    | .operator "-" :: rest =>
      (readOperand value fuel rest).map (fun found => (-found.1, found.2))
    | .operator "+" :: rest => readOperand value fuel rest
    | .operator "!" :: rest =>
      (readOperand value fuel rest).map (fun found => (truth (found.1 == 0), found.2))
    | .operator "(" :: rest =>
      match readExpression value fuel 0 rest with
      | some (n, .operator ")" :: rest) => some (n, rest)
      | _ => none
    | _ => none

/-- The value of the longest expression at the start whose operators bind more tightly than
`loosest`, and the symbols that follow. -/
def readExpression (value : String → String) :
    Nat → Nat → List Symbol → Option (Int × List Symbol)
  | 0, _, _ => none
  | fuel + 1, loosest, symbols => do
    let (left, rest) ← readOperand value fuel symbols
    continueExpression value fuel loosest left rest

/-- A value continued by the operators that follow. -/
def continueExpression (value : String → String) :
    Nat → Nat → Int → List Symbol → Option (Int × List Symbol)
  | 0, _, _, _ => none
  | fuel + 1, loosest, left, symbols =>
    match symbols with
    | .operator text :: rest =>
      match binding text with
      | some level =>
        if loosest < level then do
          let (right, rest) ← readExpression value fuel level rest
          continueExpression value fuel loosest (← apply text left right) rest
        else some (left, symbols)
      | none => some (left, symbols)
    | _ => some (left, symbols)

end

/-- The number that an expression stands for, given the values of names. -/
def number (value : String → String) (expression : List Char) : Option Int :=
  match readSymbols (expression.length + 1) expression with
  | some symbols =>
    match readExpression value (3 * symbols.length + 3) 0 symbols with
    | some (n, []) => some n
    | _ => none
  | none => none

end HostVitals.Shell.Arithmetic
