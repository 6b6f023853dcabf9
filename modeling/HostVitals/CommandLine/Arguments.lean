import HostVitals.CommandLine.Topic

/-!
# The arguments of the command line

Arguments are read from left to right.  Two options may stand in front of the topic and after it:
one asks for JSON, the other names a settings file.  Neither may be given twice in one place.  Of
two settings files the one after the topic counts.
-/

namespace HostVitals.CommandLine

/-! ## What is asked for -/

/-- A page of help. -/
inductive Page where
  | program
  | topic (t : Topic)
  | help
  deriving DecidableEq

/-- What the arguments ask for. -/
inductive Wish where
  | tell (topic : Topic) (json : Bool) (settings : Option String)
  | help (page : Page)
  | version
  deriving DecidableEq

/-- The topics by name. -/
def topicNames : List (String × Topic) :=
  [("battery", .battery), ("thermal", .thermal), ("sensors", .sensors), ("all", .all)]

/-- The page of help on a command. -/
def pageOf (name : String) : Option Page :=
  if name = "help" then some .help else (topicNames.lookup name).map .topic

/-! ## Arguments -/

/-- An argument by its shape. -/
inductive Argument where
  /-- Two dashes alone: only words follow. -/
  | wordsFollow
  /-- A long option, with the value after its equals sign if it has one. -/
  | long (name : List Char) (value : Option (List Char))
  | short (letters : List Char)
  | word (text : String)
  deriving DecidableEq

/-- What stands in front of the first equals sign, and after it. -/
def splitEquals (cs : List Char) : List Char × Option (List Char) :=
  (cs.takeWhile (· ≠ '='),
    match cs.dropWhile (· ≠ '=') with
    | _ :: value => some value
    | [] => none)

/-- The shape of an argument. -/
def shapeOf (text : String) : Argument :=
  match text.toList with
  | ['-', '-'] => .wordsFollow
  | '-' :: '-' :: rest => .long (splitEquals rest).1 (splitEquals rest).2
  | '-' :: c :: rest => .short (c :: rest)
  | _ => .word text

/-! ## Options -/

/-- The options given in one place. -/
structure Options where
  json : Bool
  settings : Option String
  /-- The option for a settings file whose value has not been checked, with its value when that
  has been read. -/
  pending : Option (Option String)
  deriving DecidableEq

namespace Options

/-- No options. -/
def none : Options := ⟨false, .none, .none⟩

/-- Whether the next word is the name of a settings file. -/
def awaits (options : Options) : Bool :=
  options.pending == some .none

/-- Takes the name of a settings file.  It may not be empty, and there may be only one. -/
def setSettings (options : Options) (path : String) : Option Options :=
  if path.isEmpty || options.settings.isSome then .none
  else some { options with settings := some path, pending := .none }

/-- Checks the value that is pending. -/
def settle (options : Options) : Option Options :=
  match options.pending with
  | .none => some options
  | some .none => .none
  | some (some path) => options.setSettings path

/-- Asks for JSON, which may be done only once. -/
def setJson (options : Options) : Option Options := do
  let options ← options.settle
  if options.json then .none else some { options with json := true }

/-- Takes a settings option with its value. -/
def takeSettings (options : Options) (path : String) : Option Options := do
  (← options.settle).setSettings path

/-- Takes a settings option whose value is the next argument. -/
def awaitSettings (options : Options) : Option Options := do
  return { ← options.settle with pending := some .none }

end Options

/-! ## Reading -/

/-- How far the arguments have been read. -/
structure Progress where
  /-- The options in front of the topic. -/
  outer : Options
  /-- The topic, with the options after it. -/
  inner : Option (Topic × Options)
  /-- Whether only words may follow. -/
  wordsOnly : Bool
  deriving DecidableEq

namespace Progress

/-- Nothing read. -/
def start : Progress := ⟨.none, none, false⟩

/-- The options at the place that is being read. -/
def options (progress : Progress) : Options :=
  match progress.inner with
  | some (_, options) => options
  | none => progress.outer

/-- The options at the place that is being read, replaced. -/
def setOptions (progress : Progress) (options : Options) : Progress :=
  match progress.inner with
  | some (topic, _) => { progress with inner := some (topic, options) }
  | none => { progress with outer := options }

/-- The page of help for the place that is being read. -/
def page (progress : Progress) : Page :=
  match progress.inner with
  | some (topic, _) => .topic topic
  | none => .program

/-- What is asked for when all arguments have been read. -/
def finish (progress : Progress) : Option Wish := do
  let outer ← progress.outer.settle
  match progress.inner with
  | none => return .tell .all outer.json outer.settings
  | some (topic, options) =>
    let options ← options.settle
    return .tell topic (outer.json || options.json) (options.settings.or outer.settings)

end Progress

/-- What an argument leads to. -/
inductive Reading where
  | goOn (progress : Progress)
  /-- It is clear what is asked for, whatever follows. -/
  | done (wish : Wish)
  /-- The arguments that follow name a page of help. -/
  | helpOn
  deriving DecidableEq

/-- Shows the page of help, once the pending value is checked. -/
def askHelp (progress : Progress) : Option Reading := do
  let _ ← progress.options.settle
  return .done (.help progress.page)

/-- Shows the version, once the pending value is checked.  Only the program has one. -/
def askVersion (progress : Progress) : Option Reading := do
  let _ ← progress.options.settle
  if progress.inner.isNone then return .done .version else none

/-- Goes on with other options. -/
def goOnWith (progress : Progress) (options : Option Options) : Option Reading :=
  options.map (fun options => .goOn (progress.setOptions options))

/-- Reads a long option. -/
def readLong (progress : Progress) (name : List Char) (value : Option (List Char)) :
    Option Reading :=
  match String.ofList name, value with
  | "json", none => goOnWith progress progress.options.setJson
  | "config", some path =>
    goOnWith progress (progress.options.takeSettings (String.ofList path))
  | "config", none => goOnWith progress progress.options.awaitSettings
  | "help", none => askHelp progress
  | "version", none => askVersion progress
  | _, _ => none

/-- Reads short options in a row.  The one for a settings file takes the rest as its value. -/
def readShort (progress : Progress) : List Char → Option Reading
  | ['c'] => goOnWith progress progress.options.awaitSettings
  | 'c' :: '=' :: path =>
    goOnWith progress (progress.options.takeSettings (String.ofList path))
  | 'c' :: path => goOnWith progress (progress.options.takeSettings (String.ofList path))
  | 'h' :: _ => askHelp progress
  | 'V' :: _ => askVersion progress
  | _ => none

/-- Reads a word: the name of a settings file where one is awaited, or else a topic. -/
def readWord (progress : Progress) (text : String) : Option Reading :=
  if progress.options.awaits then
    goOnWith progress (some { progress.options with pending := some (some text) })
  else if progress.inner.isSome then none
  else if text = "help" then some .helpOn
  else
    (topicNames.lookup text).map
      (fun topic => .goOn { progress with inner := some (topic, .none) })

/-- Reads an argument. -/
def readArgument (progress : Progress) (text : String) : Option Reading :=
  if progress.wordsOnly then none
  else
    match shapeOf text with
    | .wordsFollow => some (.goOn { progress with wordsOnly := true })
    | .long name value => readLong progress name value
    | .short letters => readShort progress letters
    | .word text => readWord progress text

/-- The page of help that is named, that on the program when none is. -/
def readPage : List String → Option Wish
  | [] => some (.help .program)
  | [name] => (pageOf name).map .help
  | _ => none

/-- What the arguments that are left ask for. -/
def readFrom (progress : Progress) : List String → Option Wish
  | [] => progress.finish
  | text :: rest =>
    match readArgument progress text with
    | some (.goOn progress) => readFrom progress rest
    | some (.done wish) => some wish
    | some .helpOn => readPage rest
    | none => none

/-- What the arguments ask for, unless they are refused. -/
def readArguments (arguments : List String) : Option Wish :=
  readFrom .start arguments

end HostVitals.CommandLine
