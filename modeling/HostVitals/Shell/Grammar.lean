import HostVitals.Shell.Token

/-!
# Reading scripts

The tokens of a script are put together to commands, and commands to a script.
-/

namespace HostVitals.Shell

/-! ## Commands -/

/-- The change of a stream of the given shape. -/
def redirectOf (stream : Nat) (shape : String) (target : Word) : Redirect :=
  let leads : Target :=
    if shape = ">>" then .file true target
    else if shape = "<" then .source target
    else if shape = ">" || shape = ">|" then .file false target
    else .copy target
  ⟨stream, leads⟩

/-- The name and the value of a word that is an assignment. -/
def assignmentOf : Word → Option (String × Word)
  | .literal text false :: rest =>
    let name := text.takeWhile (· ≠ '=')
    match text.dropWhile (· ≠ '=') with
    | _ :: value =>
      if isName name then
        some (String.ofList name, if value.isEmpty then rest else .literal value false :: rest)
      else none
    | [] => none
  | _ => none

/-- The pieces of a plain command. -/
structure Pieces where
  assignments : List (String × Word)
  words : List Word
  redirects : List Redirect

/-- The pieces with one word more, which is an assignment as long as there are no words. -/
def Pieces.addWord (pieces : Pieces) (word : Word) : Pieces :=
  match (if pieces.words.isEmpty then assignmentOf word else none) with
  | some assignment => { pieces with assignments := pieces.assignments ++ [assignment] }
  | none => { pieces with words := pieces.words ++ [word] }

/-- The pieces that the tokens start with, and the tokens that follow. -/
def readPieces (pieces : Pieces) : List Token → Pieces × List Token
  | .word word :: rest => readPieces (pieces.addWord word) rest
  | .arrow stream shape :: .word target :: rest =>
    readPieces { pieces with redirects := pieces.redirects ++ [redirectOf stream shape target] }
      rest
  | rest => (pieces, rest)

/-- The plain command that the tokens start with. -/
def readPlain (tokens : List Token) : Option (Script × List Token) :=
  let (pieces, rest) := readPieces ⟨[], [], []⟩ tokens
  if pieces.assignments.isEmpty && pieces.words.isEmpty && pieces.redirects.isEmpty then none
  else some (.command pieces.assignments pieces.words pieces.redirects, rest)

/-- The changes of streams after a command in parentheses, braces or between words of the
grammar. -/
def readRedirects (body : Script) (tokens : List Token) : Option (Script × List Token) :=
  let (pieces, rest) := readPieces ⟨[], [], []⟩ tokens
  if !pieces.assignments.isEmpty || !pieces.words.isEmpty then none
  else if pieces.redirects.isEmpty then some (body, rest)
  else some (.redirected body pieces.redirects, rest)

/-! ## Joining -/

/-- Whether a token is a word of the grammar. -/
def isKeyword (name : String) : Token → Bool
  | .word word => plainText word == some name
  | _ => false

/-- Whether a token is an operator. -/
def isMark (name : String) : Token → Bool
  | .mark text => text == name
  | _ => false

/-- The words that end a list of commands. -/
def closingWords : List String := ["then", "elif", "else", "fi", "do", "done", "\x7d"]

/-- Whether the tokens start with the end of a list of commands. -/
def atClosing : List Token → Bool
  | [] => true
  | token :: _ => isMark ")" token || closingWords.any (isKeyword · token)

/-- The tokens without the ends of lines at the start. -/
def skipLines (tokens : List Token) : List Token :=
  tokens.dropWhile (isMark "\n")

/-- The tokens after the given word of the grammar. -/
def afterKeyword (name : String) : List Token → Option (List Token)
  | token :: rest => if isKeyword name token then some rest else none
  | [] => none

/-- The tokens after the given operator. -/
def afterMark (name : String) : List Token → Option (List Token)
  | token :: rest => if isMark name token then some rest else none
  | [] => none

/-- The words up to the end of a command. -/
def readValues : List Token → List Word × List Token
  | .word word :: rest =>
    let (words, rest) := readValues rest
    (word :: words, rest)
  | rest => ([], rest)

/-- The tokens after the end of a command. -/
def afterEnd : List Token → List Token
  | token :: rest =>
    if isMark ";" token || isMark "\n" token then skipLines rest else token :: rest
  | [] => []

mutual

/-- A list of commands, up to a word or operator that closes it. -/
def readList : Nat → List Token → Option (Script × List Token)
  | 0, _ => none
  | fuel + 1, tokens =>
    let tokens := skipLines tokens
    if atClosing tokens then some (.nothing, tokens)
    else do
      let (first, rest) ← readPipe fuel tokens
      let (first, rest) ← readChain fuel first rest
      match rest with
      | .mark mark :: rest =>
        if mark = ";" || mark = "\n" then
          let (others, rest) ← readList fuel rest
          return (.sequence first others, rest)
        else if mark = "&" then
          let (others, rest) ← readList fuel rest
          return (.sequence (.background first) others, rest)
        else return (first, .mark mark :: rest)
      | _ => return (first, rest)

/-- What is joined to a command by its success or failure. -/
def readChain : Nat → Script → List Token → Option (Script × List Token)
  | 0, _, _ => none
  | fuel + 1, left, .mark "&&" :: rest => do
    let (right, rest) ← readPipe fuel (skipLines rest)
    readChain fuel (.both left right) rest
  | fuel + 1, left, .mark "||" :: rest => do
    let (right, rest) ← readPipe fuel (skipLines rest)
    readChain fuel (.either left right) rest
  | _ + 1, left, rest => some (left, rest)

/-- Commands that hand their outputs on. -/
def readPipe : Nat → List Token → Option (Script × List Token)
  | 0, _ => none
  | fuel + 1, tokens =>
    match afterKeyword "!" tokens with
    | some rest => do
      let (body, rest) ← readPipe fuel rest
      return (.negated body, rest)
    | none => do
      let (left, rest) ← readCommand fuel tokens
      match afterMark "|" rest with
      | some rest =>
        let (right, rest) ← readPipe fuel (skipLines rest)
        return (.pipe left right, rest)
      | none => return (left, rest)

/-- A single command. -/
def readCommand : Nat → List Token → Option (Script × List Token)
  | 0, _ => none
  | _ + 1, [] => none
  | fuel + 1, first :: rest =>
    if isMark "(" first then do
      let (body, rest) ← readList fuel rest
      readRedirects (.apart body) (← afterMark ")" rest)
    else if isKeyword "\x7b" first then do
      let (body, rest) ← readList fuel rest
      readRedirects body (← afterKeyword "\x7d" rest)
    else if isKeyword "if" first then do
      let (body, rest) ← readBranch fuel rest
      readRedirects body rest
    else if isKeyword "while" first || isKeyword "until" first then do
      let (condition, rest) ← readList fuel rest
      let (body, rest) ← readList fuel (← afterKeyword "do" rest)
      readRedirects (.loop (isKeyword "until" first) condition body) (← afterKeyword "done" rest)
    else if isKeyword "for" first then readEach fuel rest
    else readPlain (first :: rest)

/-- What follows an `if` or `elif`. -/
def readBranch : Nat → List Token → Option (Script × List Token)
  | 0, _ => none
  | fuel + 1, tokens => do
    let (condition, rest) ← readList fuel tokens
    let (yes, rest) ← readList fuel (← afterKeyword "then" rest)
    match afterKeyword "elif" rest with
    | some rest =>
      let (no, rest) ← readBranch fuel rest
      return (.branch condition yes no, rest)
    | none =>
      match afterKeyword "else" rest with
      | some rest =>
        let (no, rest) ← readList fuel rest
        return (.branch condition yes no, ← afterKeyword "fi" rest)
      | none => return (.branch condition yes .nothing, ← afterKeyword "fi" rest)

/-- What follows a `for`. -/
def readEach : Nat → List Token → Option (Script × List Token)
  | 0, _ => none
  | fuel + 1, .word name :: rest => do
    let name ← plainText name
    let (values, rest) ←
      match afterKeyword "in" rest with
      | some rest => some (readValues rest)
      | none => some ([[.parameter "@" true]], rest)
    let (body, rest) ← readList fuel (← afterKeyword "do" (afterEnd rest))
    readRedirects (.each name values body) (← afterKeyword "done" rest)
  | _ + 1, _ => none

end

/-- The script of a text, unless the text is no script. -/
def readScript (text : List Char) : Option Script := do
  let tokens ← tokens text
  let (script, rest) ← readList (3 * tokens.length + 3) tokens
  if rest.isEmpty then some script else none

end HostVitals.Shell
