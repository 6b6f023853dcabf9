import HostVitals.Shell.Script

/-!
# Reading the words of a script

A script is cut into words, operators and changes of streams.
-/

namespace HostVitals.Shell

/-- A piece of a script. -/
inductive Token where
  | word (w : Word)
  /-- An operator or the end of a line. -/
  | mark (text : String)
  /-- A change of a stream, whose target is the next word. -/
  | arrow (stream : Nat) (shape : String)
  deriving DecidableEq

/-! ## Expansions -/

/-- The text up to the parenthesis that closes `depth` open ones, and what follows. -/
def upToClosing : Nat → Nat → List Char → Option (List Char × List Char)
  | 0, _, _ => none
  | _ + 1, _, [] => none
  | fuel + 1, depth, c :: rest =>
    let goOn (depth : Nat) (taken rest : List Char) :=
      (upToClosing fuel depth rest).map (fun found => (taken ++ found.1, found.2))
    if c = ')' then
      if depth = 1 then some ([], rest) else goOn (depth - 1) [c] rest
    else if c = '(' then goOn (depth + 1) [c] rest
    else if c = '\x27' || c = '"' then
      let inner := rest.takeWhile (· ≠ c)
      goOn depth (c :: inner ++ [c]) ((rest.dropWhile (· ≠ c)).drop 1)
    else goOn depth [c] rest

/-- The characters that name a parameter on their own. -/
def specialParameters : List Char := ['$', '?', '#', '@', '*', '!']

/-- The part after a dollar sign, and what follows. -/
def readDollar (quoted : Bool) (cs : List Char) : Option (Part × List Char) :=
  match cs with
  | '(' :: '(' :: rest =>
    (upToClosing (rest.length + 1) 2 rest).map (fun found =>
      if found.1.getLast? = some ')' then (.arithmetic found.1.dropLast quoted, found.2)
      else (.output ('(' :: found.1) quoted, found.2))
  | '(' :: rest =>
    (upToClosing (rest.length + 1) 1 rest).map (fun found => (.output found.1 quoted, found.2))
  | '\x7b' :: rest =>
    let name := rest.takeWhile (· ≠ '\x7d')
    match rest.dropWhile (· ≠ '\x7d') with
    | _ :: after => some (.parameter (String.ofList name) quoted, after)
    | [] => none
  | c :: rest =>
    if specialParameters.contains c || c.isDigit then
      some (.parameter (String.singleton c) quoted, rest)
    else if isNameChar c then
      some (.parameter (String.ofList (cs.takeWhile isNameChar)) quoted, cs.dropWhile isNameChar)
    else some (.literal ['$'] quoted, cs)
  | [] => some (.literal ['$'] quoted, [])

/-- The part between backquotes, and what follows. -/
def readBackquoted (quoted : Bool) (cs : List Char) : Option (Part × List Char) :=
  match cs.dropWhile (· ≠ '\x60') with
  | _ :: rest => some (.output (cs.takeWhile (· ≠ '\x60')) quoted, rest)
  | [] => none

/-! ## Words -/

/-- Whether a backslash between quotation marks takes the meaning from a character. -/
def isEscapable (c : Char) : Bool :=
  c == '$' || c == '\x60' || c == '"' || c == '\\'

/-- The parts up to the closing quotation mark, and what follows. -/
def readQuoted : Nat → List Char → Option (Word × List Char)
  | 0, _ => none
  | _ + 1, [] => none
  | _ + 1, '"' :: rest => some ([], rest)
  | fuel + 1, '\\' :: '\n' :: rest => readQuoted fuel rest
  | fuel + 1, '\\' :: c :: rest =>
    let text := if isEscapable c then [c] else ['\\', c]
    (readQuoted fuel rest).map (fun found => (.literal text true :: found.1, found.2))
  | fuel + 1, '$' :: rest => do
    let (part, rest) ← readDollar true rest
    let (parts, rest) ← readQuoted fuel rest
    return (part :: parts, rest)
  | fuel + 1, '\x60' :: rest => do
    let (part, rest) ← readBackquoted true rest
    let (parts, rest) ← readQuoted fuel rest
    return (part :: parts, rest)
  | fuel + 1, c :: rest =>
    (readQuoted fuel rest).map (fun found => (.literal [c] true :: found.1, found.2))

/-- Whether a character of a word has a meaning of its own. -/
def isActive (c : Char) : Bool :=
  c == '\\' || c == '\x27' || c == '"' || c == '$' || c == '\x60' || endsWord c

/-- The parts of the word that the text starts with, and what follows. -/
def readWord : Nat → List Char → Option (Word × List Char)
  | 0, _ => none
  | _ + 1, [] => some ([], [])
  | fuel + 1, c :: rest =>
    let goOn (parts : Word) (rest : List Char) :=
      (readWord fuel rest).map (fun found => (parts ++ found.1, found.2))
    if endsWord c then some ([], c :: rest)
    else if c = '\\' then
      match rest with
      | '\n' :: rest => goOn [] rest
      | d :: rest => goOn [.literal [d] true] rest
      | [] => goOn [.literal ['\\'] true] []
    else if c = '\x27' then
      match rest.dropWhile (· ≠ '\x27') with
      | _ :: after => goOn [.literal (rest.takeWhile (· ≠ '\x27')) true] after
      | [] => none
    else if c = '"' then do
      let (parts, rest) ← readQuoted (rest.length + 1) rest
      goOn (if parts.isEmpty then [.literal [] true] else parts) rest
    else if c = '$' then do
      let (part, rest) ← readDollar false rest
      goOn [part] rest
    else if c = '\x60' then do
      let (part, rest) ← readBackquoted false rest
      goOn [part] rest
    else
      let text := (c :: rest).takeWhile (fun d => !isActive d)
      goOn [.literal text false] ((c :: rest).dropWhile (fun d => !isActive d))

/-! ## Tokens -/

/-- The operators of two characters. -/
def longMarks : List String := ["&&", "||", ";;"]

/-- The shapes of changes of streams, longer ones first. -/
def arrowShapes : List String := [">>", ">&", "<&", ">|", ">", "<"]

/-- The change of a stream that a text starts with, and what follows. -/
def readArrow (cs : List Char) : Option (Token × List Char) :=
  let digits := cs.takeWhile Char.isDigit
  let rest := cs.dropWhile Char.isDigit
  match arrowShapes.find? (fun shape => shape.toList.isPrefixOf rest) with
  | some shape =>
    let standard := if shape.toList.head? = some '<' then 0 else 1
    let stream := (String.ofList digits).toNat?.getD standard
    some (.arrow stream shape, rest.drop shape.length)
  | none => none

/-- The operator that a text starts with, and what follows. -/
def readMark (cs : List Char) : Option (Token × List Char) :=
  match longMarks.find? (fun mark => mark.toList.isPrefixOf cs) with
  | some mark => some (.mark mark, cs.drop 2)
  | none =>
    match cs with
    | c :: rest => if endsWord c then some (.mark (String.singleton c), rest) else none
    | [] => none

/-- The tokens of a script. -/
def readTokens : Nat → List Char → Option (List Token)
  | 0, _ => none
  | _ + 1, [] => some []
  | fuel + 1, c :: rest =>
    if isShellBlank c then readTokens fuel rest
    else if c = '#' then readTokens fuel (rest.dropWhile (· ≠ '\n'))
    else
      match (readArrow (c :: rest)).orElse (fun _ => readMark (c :: rest)) with
      | some (token, rest) => (readTokens fuel rest).map (token :: ·)
      | none => do
        let (word, rest) ← readWord (rest.length + 2) (c :: rest)
        return .word word :: (← readTokens fuel rest)

/-- The tokens of a script, unless something is not closed. -/
def tokens (script : List Char) : Option (List Token) :=
  readTokens (2 * script.length + 1) script

end HostVitals.Shell
