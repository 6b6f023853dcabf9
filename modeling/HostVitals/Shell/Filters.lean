import HostVitals.Number.Digits
import HostVitals.Shell.Writing

/-!
# Tools that work on their input

`cat`, `head`, `tail`, `wc` and `tr` make something from files or from what they are given to
read.
-/

namespace HostVitals.Shell

open HostVitals.Number HostVitals.Text

/-! ## Taking parts -/

/-- Writes files one after another. -/
def cat (task : Task) : Effect :=
  filterFiles task (task.arguments.filter (fun a => a = "-" || a.toList.head? ≠ some '-')) id

/-- How much of a file is taken. -/
inductive Amount where
  | lines (count : Nat)
  | bytes (count : Nat)

/-- The amount and the files in the arguments of `head` and `tail`. -/
def readAmount : List String → Option (Amount × List String)
  | "-c" :: n :: rest => (readDigits n.toList).map (fun count => (.bytes count, rest))
  | "-n" :: n :: rest => (readDigits n.toList).map (fun count => (.lines count, rest))
  | first :: rest =>
    match first.toList with
    | '-' :: 'c' :: n => (readDigits n).map (fun count => (.bytes count, rest))
    | '-' :: 'n' :: n => (readDigits n).map (fun count => (.lines count, rest))
    | '-' :: c :: n => (readDigits (c :: n)).map (fun count => (.lines count, rest))
    | _ => some (.lines 10, first :: rest)
  | [] => some (.lines 10, [])

/-- The first lines of some bytes. -/
def firstLines : Nat → List UInt8 → List UInt8
  | 0, _ => []
  | _ + 1, [] => []
  | count + 1, b :: rest => b :: firstLines (if b = 10 then count else count + 1) rest
termination_by _ bytes => bytes.length

/-- The beginning of a flow. -/
def beginning (amount : Amount) (flow : Flow) : List UInt8 :=
  match amount with
  | .bytes count => flow.take count
  | .lines count => firstLines count (flow.take (flow.bytes.length + count * flow.again.length))

/-- Writes the beginning of files. -/
def head (task : Task) : Effect :=
  match readAmount task.arguments with
  | some (amount, paths) => filterFiles task paths (fun flow => .ofBytes (beginning amount flow))
  | none => .exit 1

/-- The number of lines in some bytes, where the last need not be ended. -/
def countLines (bytes : List UInt8) : Nat :=
  bytes.count 10 + if bytes.getLast?.any (· ≠ 10) then 1 else 0

/-- The last lines of some bytes. -/
def lastLines (count : Nat) (bytes : List UInt8) : List UInt8 :=
  bytes.drop (firstLines (countLines bytes - count) bytes).length

/-- Writes the end of files. -/
def tail (task : Task) : Effect :=
  match readAmount task.arguments with
  | some (amount, paths) =>
    filterFiles task paths (fun flow =>
      match amount with
      | .bytes count => ⟨flow.bytes.drop (flow.bytes.length - count), flow.again⟩
      | .lines count => ⟨lastLines count flow.bytes, flow.again⟩)
  | none => .exit 1

/-! ## Counting and replacing -/

/-- Whether a byte stands between words. -/
def partsWords (b : UInt8) : Bool :=
  b == 32 || (9 ≤ b && b ≤ 13)

/-- The number of words in some bytes, where `inside` says whether a word has begun. -/
def countWords (inside : Bool) : List UInt8 → Nat
  | [] => if inside then 1 else 0
  | b :: rest =>
    if partsWords b then (if inside then 1 else 0) + countWords false rest
    else countWords true rest

/-- The counts that are asked for, in their order. -/
def counts (letters : List Char) (bytes : List UInt8) : List Nat :=
  let all := letters.isEmpty
  (if all || letters.contains 'l' then [bytes.count 10] else [])
    ++ (if all || letters.contains 'w' then [countWords false bytes] else [])
    ++ (if letters.contains 'm' then [(Utf8.symbols bytes).length] else [])
    ++ (if all || letters.contains 'c' then [bytes.length] else [])

/-- The line with the counts and the name of a file. -/
def countLine (numbers : List Nat) (name : Option String) : String :=
  let columns :=
    match numbers, name with
    | [n], _ => [toString n]
    | _, none => numbers.map (fun n => String.ofList (onWidth false ' ' 7 (natDigits n)))
    | _, some _ => numbers.map toString
  String.intercalate " " (columns ++ name.toList) ++ "\n"

/-- Counts lines, words and bytes. -/
def wc (task : Task) : Effect :=
  let isOption (a : String) : Bool := a.toList.head? = some '-' && a ≠ "-"
  let letters := (task.arguments.filter isOption).flatMap (fun a => a.toList.drop 1)
  let paths := task.arguments.filter (fun a => !isOption a)
  let (flow, complete) := openFiles task paths
  if flow.endless then ⟨.empty, 0, none, true⟩
  else
    { Effect.filter (.ofText (countLine (counts letters flow.bytes) paths.head?)) with
      code := if complete then 0 else 1 }

/-- The bytes of a set of characters, with ranges. -/
def expandSet : List UInt8 → List UInt8
  | a :: 45 :: b :: rest =>
    if a ≤ b then
      (List.range (b.toNat - a.toNat + 1)).map (fun i => UInt8.ofNat (a.toNat + i))
        ++ expandSet rest
    else a :: 45 :: b :: expandSet rest
  | a :: rest => a :: expandSet rest
  | [] => []

/-- The bytes of a set of characters. -/
def readSet (text : String) : List UInt8 :=
  expandSet (unescape formatRules text.toList).1

/-- What a byte of the first set is replaced by: the byte at its place in the second set, or the
last one. -/
def replacement (first second : List UInt8) (b : UInt8) : UInt8 :=
  match first.idxOf? b with
  | some i => (second[i]?.or second.getLast?).getD b
  | none => b

/-- Replaces or deletes bytes. -/
def tr (task : Task) : Effect :=
  match task.arguments with
  | ["-d", set] =>
    let gone := readSet set
    .filter (task.input.flatMap (fun b => if gone.contains b then [] else [b]))
  | [first, second] =>
    let first := readSet first
    let second := readSet second
    .filter (task.input.flatMap (fun b => [replacement first second b]))
  | _ => .exit 1

end HostVitals.Shell
