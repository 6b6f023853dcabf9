import HostVitals.Number.Digits
import HostVitals.Shell.Writing

/-!
# Tools that need no input

`seq` and `yes` write something of their own, `sleep` waits, and `test` tells whether a condition
holds.
-/

namespace HostVitals.Shell

open HostVitals.Files HostVitals.Number HostVitals.Text

/-! ## Making something -/

/-- The whole numbers from one to another in steps. -/
def numbersUpTo (step last : Int) : Nat → Int → List Int
  | 0, _ => []
  | fuel + 1, n =>
    if (0 < step && last < n) || (step < 0 && n < last) || step = 0 then []
    else n :: numbersUpTo step last fuel (n + step)

/-- The most numbers that are counted out. -/
def mostNumbers : Nat := 1000000

/-- Writes whole numbers, each on a line. -/
def seq (task : Task) : Effect :=
  let written (first step last : Int) : Effect :=
    let numbers := numbersUpTo step last (min mostNumbers ((last - first).natAbs + 1)) first
    .write (.ofText (String.join (numbers.map (fun n => toString n ++ "\n"))))
  match task.arguments.map (fun a => readInt64 a.toList) with
  | [some last] => written 1 1 last
  | [some first, some last] => written first 1 last
  | [some first, some step, some last] => written first step last
  | _ => .exit 1

/-- Writes a line again and again. -/
def yes (task : Task) : Effect :=
  let line := if task.arguments.isEmpty then ['y'] else spaced task.arguments
  ⟨⟨[], Utf8.encode line ++ [10]⟩, 0, none, false⟩

/-- The nanoseconds in a second. -/
def nanosInSecond : Nat := 1000000000

/-- The nanoseconds of a duration such as `0.5` or `2m`. -/
def readDuration (text : String) : Option Nat :=
  let cs := text.toList
  let whole := cs.takeWhile isDigit
  let rest := cs.dropWhile isDigit
  let (fraction, rest) :=
    match rest with
    | '.' :: rest => (rest.takeWhile isDigit, rest.dropWhile isDigit)
    | _ => ([], rest)
  let nanos :=
    digitsValue (whole ++ fraction) * nanosInSecond / Nat.pow 10 fraction.length
  if whole.isEmpty && fraction.isEmpty then none
  else
    match rest with
    | [] => some nanos
    | ['s'] => some nanos
    | ['m'] => some (nanos * 60)
    | ['h'] => some (nanos * 3600)
    | ['d'] => some (nanos * 86400)
    | _ => none

/-- Waits. -/
def sleep (task : Task) : Effect :=
  if task.arguments.isEmpty then .exit 1
  else if task.arguments.contains "infinity" then ⟨.empty, 0, none, false⟩
  else
    match task.arguments.mapM readDuration with
    | some durations => ⟨.empty, 0, some (durations.foldl (· + ·) 0), false⟩
    | none => .exit 1

/-! ## Testing -/

/-- Whether a comparison of whole numbers holds. -/
def compareNumbers (name : String) (a b : Int) : Option Bool :=
  match name with
  | "-eq" => some (decide (a = b))
  | "-ne" => some (decide (a ≠ b))
  | "-lt" => some (decide (a < b))
  | "-le" => some (decide (a ≤ b))
  | "-gt" => some (decide (b < a))
  | "-ge" => some (decide (b ≤ a))
  | _ => none

/-- Whether there is a directory at a path. -/
def isDirectory (files : Node) (path : String) : Bool :=
  match files.find path with
  | .ok (.directory _) => true
  | _ => false

/-- Whether there is a file at a path. -/
def isFile (files : Node) (path : String) : Bool :=
  match files.find path with
  | .ok (.file _ _) => true
  | _ => false

/-- Whether a condition holds, when it is understood. -/
def holds (files : Node) : List String → Option Bool
  | [] => some false
  | [text] => some (!text.isEmpty)
  | ["!", text] => some text.isEmpty
  | ["-n", text] => some (!text.isEmpty)
  | ["-z", text] => some text.isEmpty
  | ["-e", path] => some (files.exists path)
  | ["-f", path] => some (isFile files path)
  | ["-d", path] => some (isDirectory files path)
  | ["-x", path] => some (files.exists path)
  | ["-r", path] => some (files.exists path)
  | [a, "=", b] => some (a == b)
  | [a, "!=", b] => some (a != b)
  | [a, name, b] => do
    compareNumbers name (← readInt64 a.toList) (← readInt64 b.toList)
  | _ => none

/-- Ends with success when a condition holds. -/
def test (task : Task) : Effect :=
  match holds task.files task.arguments with
  | some true => .exit 0
  | some false => .exit 1
  | none => .exit 2

/-- The test that is written between brackets. -/
def bracket (task : Task) : Effect :=
  if task.arguments.getLast? = some "]" then
    test { task with arguments := task.arguments.dropLast }
  else .exit 2

end HostVitals.Shell
