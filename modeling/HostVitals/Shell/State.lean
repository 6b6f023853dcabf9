import HostVitals.Execution.Programs
import HostVitals.Execution.Status
import HostVitals.Shell.Grammar
import HostVitals.Shell.Toolbox

/-!
# The state of a shell

What a shell knows while it runs a script, and what has been written so far.  Commands that run
beside each other write at their own times; what reaches a stream is put together in the order of
time.
-/

namespace HostVitals.Shell

open HostVitals.Files HostVitals.Execution HostVitals.Text

/-! ## Streams -/

/-- Where a stream leads. -/
inductive Sink where
  /-- To a pipe, told by its depth; the output of the whole script is the pipe of depth zero. -/
  | pipe (depth : Nat)
  | file (path : String)
  | nowhere
  deriving DecidableEq

/-- Something that was written to a pipe. -/
structure Written where
  time : Nat
  depth : Nat
  flow : Flow

/-- The streams of a command. -/
structure Streams where
  input : Flow
  /-- When the end of its input is reached. -/
  inputEnds : Nat
  output : Sink
  messages : Sink
  /-- The depth of the pipe that is made next. -/
  nextDepth : Nat

/-- What a stream has been given, in the order of time. -/
def collected (depth : Nat) (written : List Written) : Flow :=
  .join (((written.filter (fun w => w.depth == depth)).mergeSort
    (fun a b => decide (a.time ≤ b.time))).map Written.flow)

/-! ## The shell -/

/-- A time that is never reached. -/
def never : Nat := Nat.pow 10 30

/-- A shell while it runs. -/
structure State where
  files : Node
  parameters : List (String × String)
  name : String
  arguments : List String
  /-- The exit code of the last command. -/
  code : Nat
  time : Nat
  written : List Written
  /-- When the last command ends that was left running. -/
  jobsEnd : Nat
  /-- When the last command ends that was left running with the output open. -/
  heldUntil : Nat
  /-- How the shell has ended, when it has. -/
  ended : Option Status

namespace State

/-- The number that stands for the shell among all processes. -/
def processNumber : String := "4242"

/-- The value of a parameter. -/
def value (state : State) (name : String) : String :=
  if name = "?" then toString state.code
  else if name = "$" then processNumber
  else if name = "#" then toString state.arguments.length
  else if name = "@" || name = "*" then String.intercalate " " state.arguments
  else if name = "0" then state.name
  else
    match name.toNat? with
    | some n => (state.arguments[n - 1]?).getD ""
    | none => (state.parameters.lookup name).getD ""

/-- The shell with a parameter set. -/
def assign (state : State) (name value : String) : State :=
  { state with
    parameters := (name, value) :: state.parameters.filter (fun entry => entry.1 ≠ name) }

/-- The shell after writing something. -/
def write (state : State) (sink : Sink) (flow : Flow) : State :=
  match sink with
  | .pipe depth => { state with written := state.written ++ [⟨state.time, depth, flow⟩] }
  | .file path =>
    let before :=
      match state.files.find path >>= Node.readBytes with
      | .ok bytes => bytes
      | .error _ => []
    { state with files := state.files.apply (.write path (before ++ flow.bytes)) }
  | .nowhere => state

/-- The shell after a command with an exit code. -/
def setCode (state : State) (code : Nat) : State := { state with code }

/-- The shell after it has been left with an exit code. -/
def leave (state : State) (code : Nat) : State :=
  { state with code, ended := some (.exited code) }

/-- The shell after waiting until a time. -/
def waitUntil (state : State) (time : Nat) : State :=
  { state with time := max state.time time }

/-- The shell after commands that ran in a shell of their own: what they wrote stays, and so does
the end of the whole shell when a signal killed it. -/
def afterApart (outer inner : State) : State :=
  { outer with
    files := inner.files
    code := inner.code
    time := inner.time
    written := inner.written
    jobsEnd := inner.jobsEnd
    heldUntil := inner.heldUntil
    ended :=
      match inner.ended with
      | some (.killed signal) => some (.killed signal)
      | _ => outer.ended }

/-- The shell that starts a script. -/
def start (files : Node) (name : String) (arguments : List String) : State where
  files
  parameters := [("HOME", "/root"), ("PATH", String.intercalate ":" programDirectories)]
  name
  arguments
  code := 0
  time := 0
  written := []
  jobsEnd := 0
  heldUntil := 0
  ended := none

end State

/-! ## Fields -/

/-- Whether a character keeps fields apart. -/
def splitsFields (c : Char) : Bool :=
  c == ' ' || c == '\t' || c == '\n'

/-- Fields that are being put together. -/
structure Fields where
  complete : List (List Char)
  /-- The field that is being put together, if one has begun. -/
  current : Option (List Char)

namespace Fields

/-- No fields. -/
def empty : Fields := ⟨[], none⟩

/-- The current field continued by a text. -/
def extend (fields : Fields) (cs : List Char) : Fields :=
  { fields with current := some (fields.current.getD [] ++ cs) }

/-- The current field completed. -/
def close (fields : Fields) : Fields :=
  { complete := fields.complete ++ fields.current.toList, current := none }

/-- The fields continued by a text that is itself cut into fields. -/
def addSplit (fields : Fields) (cs : List Char) : Fields :=
  cs.foldl (fun fields c => if splitsFields c then fields.close else fields.extend [c]) fields

/-- The fields continued by a text, cut into fields unless it is quoted. -/
def add (fields : Fields) (quoted : Bool) (cs : List Char) : Fields :=
  if quoted then fields.extend cs else fields.addSplit cs

/-- All fields. -/
def toList (fields : Fields) : List String :=
  fields.close.complete.map String.ofList

end Fields

/-- The text that some bytes give as the value of a parameter: without line feeds at its end. -/
def valueOfBytes (bytes : List UInt8) : List Char :=
  let cs := (Utf8.decode bytes).getD []
  (cs.reverse.dropWhile (· == '\n')).reverse

end HostVitals.Shell
