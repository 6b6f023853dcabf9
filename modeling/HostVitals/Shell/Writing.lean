import HostVitals.Number.Digits
import HostVitals.Shell.Escape
import HostVitals.Shell.Tool

/-!
# Tools that write their arguments

`echo` writes its arguments with blanks between them, `printf` in a format of their own.
-/

namespace HostVitals.Shell

open HostVitals.Number HostVitals.Text

/-! ## Writing -/

/-- How `echo` reads escapes. -/
def echoRules : EscapeRules := ⟨true, true⟩

/-- Arguments with blanks between them. -/
def spaced (arguments : List String) : List Char :=
  (String.intercalate " " arguments).toList

/-- The bytes of `echo`, with a line feed unless it is left out. -/
def echoBytes (escapes newline : Bool) (arguments : List String) : List UInt8 :=
  let (bytes, stopped) :=
    if escapes then unescape echoRules (spaced arguments)
    else (Utf8.encode (spaced arguments), false)
  if newline && !stopped then bytes ++ [10] else bytes

/-- The `echo` of the shell, which always reads escapes. -/
def shellEcho (task : Task) : Effect :=
  match task.arguments with
  | "-n" :: rest => .write (.ofBytes (echoBytes true false rest))
  | arguments => .write (.ofBytes (echoBytes true true arguments))

/-- Whether an argument of the program `echo` is a group of its options. -/
def isEchoOption (argument : String) : Bool :=
  match argument.toList with
  | '-' :: c :: rest => (c :: rest).all (fun d => d == 'n' || d == 'e' || d == 'E')
  | _ => false

/-- The program `echo`, which reads escapes when it is told to. -/
def echoProgram (task : Task) : Effect :=
  let options := task.arguments.takeWhile isEchoOption
  let rest := task.arguments.dropWhile isEchoOption
  let letters := options.flatMap String.toList
  let escapes := (letters.filter (fun c => c != 'n')).getLast? == some 'e'
  .write (.ofBytes (echoBytes escapes (!letters.contains 'n') rest))

/-! ## Formatted writing -/

/-- How the format of `printf` reads escapes. -/
def formatRules : EscapeRules := ⟨false, false⟩

/-- A text on a width, at the right unless it is told otherwise. -/
def onWidth (left : Bool) (fill : Char) (width : Nat) (cs : List Char) : List Char :=
  let missing := width - cs.length
  if left then cs ++ List.replicate missing ' ' else List.replicate missing fill ++ cs

/-- A conversion of a format. -/
structure Conversion where
  flags : List Char
  width : Nat
  precision : Option Nat
  letter : Char

/-- The conversion after a percent sign, and the number of characters that it takes. -/
def readConversion (cs : List Char) : Option (Conversion × Nat) :=
  let isFlag (c : Char) : Bool := c == '-' || c == '0' || c == '+' || c == ' ' || c == '#'
  let flags := cs.takeWhile isFlag
  let rest := cs.dropWhile isFlag
  let width := rest.takeWhile isDigit
  let rest := rest.dropWhile isDigit
  let (precision, rest) :=
    match rest with
    | '.' :: rest => (some (rest.takeWhile isDigit), rest.dropWhile isDigit)
    | _ => (none, rest)
  match rest with
  | letter :: after =>
    some (⟨flags, digitsValue width, precision.map digitsValue, letter⟩,
      cs.length - after.length)
  | [] => none

/-- A whole number on the precision and the width of a conversion. -/
def formatInteger (conversion : Conversion) (base : Nat) (n : Int) : List Char :=
  let digits := Nat.toDigits base n.natAbs
  let digits := onWidth false '0' (conversion.precision.getD 1) digits
  let sign :=
    if n < 0 then ['-'] else if conversion.flags.contains '+' then ['+'] else []
  if conversion.flags.contains '0' && !conversion.flags.contains '-' then
    sign ++ onWidth false '0' (conversion.width - sign.length) digits
  else onWidth (conversion.flags.contains '-') ' ' conversion.width (sign ++ digits)

/-- The whole number of an argument, zero when it is none. -/
def argumentNumber (argument : String) : Int :=
  (readInt64 argument.toList).getD 0

/-- The bytes of an argument under a conversion, and whether all output ends there. -/
def convert (conversion : Conversion) (argument : String) : List UInt8 × Bool :=
  let text (cs : List Char) : List UInt8 × Bool :=
    (Utf8.encode (onWidth (conversion.flags.contains '-') ' ' conversion.width cs), false)
  match conversion.letter with
  | 's' => text (argument.toList.take (conversion.precision.getD argument.length))
  | 'b' => unescape echoRules argument.toList
  | 'c' => text (argument.toList.take 1)
  | 'd' => (Utf8.encode (formatInteger conversion 10 (argumentNumber argument)), false)
  | 'i' => (Utf8.encode (formatInteger conversion 10 (argumentNumber argument)), false)
  | 'u' => (Utf8.encode (formatInteger conversion 10 (argumentNumber argument)), false)
  | 'x' => (Utf8.encode (formatInteger conversion 16 (argumentNumber argument)), false)
  | 'o' => (Utf8.encode (formatInteger conversion 8 (argumentNumber argument)), false)
  | _ => ([], true)

/-- The bytes of one pass through a format, where `skip` characters have been read already; the
arguments that are left; and whether all output ends there. -/
def formatOnce : Nat → List Char → List String → List UInt8 × List String × Bool
  | _, [], arguments => ([], arguments, false)
  | skip + 1, _ :: rest, arguments => formatOnce skip rest arguments
  | 0, '\\' :: rest, arguments =>
    let (bytes, used, _) := readEscape formatRules rest
    let (others, arguments, stopped) := formatOnce used rest arguments
    (bytes ++ others, arguments, stopped)
  | 0, '%' :: '%' :: rest, arguments =>
    let (others, arguments, stopped) := formatOnce 1 ('%' :: rest) arguments
    (37 :: others, arguments, stopped)
  | 0, '%' :: rest, arguments =>
    match readConversion rest with
    | some (conversion, used) =>
      let (bytes, stopped) := convert conversion (arguments.headD "")
      if stopped then (bytes, [], true)
      else
        let (others, arguments, stopped) := formatOnce used rest (arguments.drop 1)
        (bytes ++ others, arguments, stopped)
    | none => ([], [], true)
  | 0, c :: rest, arguments =>
    let (others, arguments, stopped) := formatOnce 0 rest arguments
    (Utf8.encode [c] ++ others, arguments, stopped)

/-- The bytes of a format, which is used again as long as there are arguments left. -/
def formatAll (format : List Char) : Nat → List String → List UInt8
  | 0, _ => []
  | fuel + 1, arguments =>
    let (bytes, left, stopped) := formatOnce 0 format arguments
    if stopped || left.isEmpty || left.length = arguments.length then bytes
    else bytes ++ formatAll format fuel left

/-- Writes arguments in a format, as the shell does it. -/
def shellPrintf (task : Task) : Effect :=
  let arguments :=
    match task.arguments with
    | "--" :: rest => rest
    | arguments => arguments
  match arguments with
  | format :: rest => .write (.ofBytes (formatAll format.toList (rest.length + 1) rest))
  | [] => .exit 2

/-- The program `printf`, which ends with another code when it is given no format. -/
def printfProgram (task : Task) : Effect :=
  let effect := shellPrintf task
  { effect with code := min 1 effect.code }

end HostVitals.Shell
