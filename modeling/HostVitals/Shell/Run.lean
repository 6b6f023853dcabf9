import HostVitals.Shell.Arithmetic
import HostVitals.Shell.State

/-!
# Running scripts

Scripts are run step by step, with a bound on the number of steps; a script that goes on beyond
the bound never ends.
-/

namespace HostVitals.Shell

open HostVitals.Files HostVitals.Number HostVitals.Execution

/-- How long it takes to start a program, in nanoseconds. -/
def startTime : Nat := 1000000

/-- The most steps of a script. -/
def mostSteps : Nat := 2000

/-! ## Tools -/

/-- The effect of a command with its streams on the shell. -/
def State.perform (state : State) (streams : Streams) (effect : Effect) : State :=
  let ready := if effect.readsInput then max state.time streams.inputEnds else state.time
  let state := { state with time := ready }
  match effect.pause with
  | some pause =>
    ({ state with time := ready + pause }.write streams.output effect.output).setCode effect.code
  | none =>
    let state := state.write streams.output effect.output
    { state with time := max state.time never, code := effect.code }

/-- The number of a signal with a name or number. -/
def signalNumber (text : String) : Option Nat :=
  let cs := text.toList
  let name := if "SIG".toList.isPrefixOf cs then cs.drop 3 else cs
  match readDigits cs with
  | some n => some n
  | none => (signalNames.idxOf? (String.ofList name)).map (· + 1)

/-- The signal in the arguments of `kill`, and the processes. -/
def readKill : List String → Option (Nat × List String)
  | "-s" :: name :: rest => (signalNumber name).map (fun signal => (signal, rest))
  | first :: rest =>
    match first.toList with
    | '-' :: name => (signalNumber (String.ofList name)).map (fun signal => (signal, rest))
    | _ => some (15, first :: rest)
  | [] => none

/-- The signals that do not touch a process that is sent them. -/
def harmlessSignals : List Nat := [0, 17, 18, 23, 28]

/-- The signals that stop a process until it is told to go on. -/
def stoppingSignals : List Nat := [19, 20, 21, 22]

/-- Sends a signal, which ends or stops the shell when it is sent to it. -/
def State.kill (state : State) (arguments : List String) : State :=
  match readKill arguments with
  | some (signal, targets) =>
    if !targets.contains State.processNumber then state.setCode 1
    else if harmlessSignals.contains signal then state.setCode 0
    else if stoppingSignals.contains signal then state.waitUntil never
    else { state with ended := some (.killed signal) }
  | none => state.setCode 2

/-- The exit code of a command that is no program. -/
def missingCode (files : Node) (name : String) : Nat :=
  match files.program name with
  | .error (.system error) => if error = .notFound || error = .notADirectory then 127 else 126
  | _ => 127

/-- The name of a program without the directory that it is in. -/
def baseName (path : String) : String :=
  ((pathParts path).getLast?).getD path

/-- Runs a program with its arguments. -/
def State.runProgram (state : State) (streams : Streams) (name : String)
    (arguments : List String) : State :=
  match state.files.program name with
  | .error _ => state.setCode (missingCode state.files name)
  | .ok path =>
    match programTools.lookup (baseName path) with
    | some tool =>
      { state with time := state.time + startTime }.perform streams
        (tool ⟨arguments, streams.input, state.files⟩)
    | none => state.setCode 126

/-! ## Streams -/

/-- The streams of a command whose streams are led elsewhere, and the shell, in which files have
been emptied. -/
def redirect (state : State) (streams : Streams) (r : Redirect) (path : String) :
    State × Streams :=
  let lead (sink : Sink) : Streams :=
    if r.stream = 2 then { streams with messages := sink }
    else if r.stream = 1 then { streams with output := sink }
    else streams
  match r.target with
  | .source _ =>
    match openFile ⟨[], .empty, state.files⟩ path with
    | some flow => (state, { streams with input := flow, inputEnds := 0 })
    | none => (state.setCode 2, { streams with input := .empty, inputEnds := 0 })
  | .file append _ =>
    if path = "/dev/null" then (state, lead .nowhere)
    else if append then (state, lead (.file path))
    else
      ({ state with files := state.files.apply (.write path []) }, lead (.file path))
  | .copy _ =>
    if path = "1" then (state, lead streams.output)
    else if path = "2" then (state, lead streams.messages)
    else (state, lead .nowhere)

/-- The word of a target. -/
def Target.word : Target → Word
  | .file _ path => path
  | .source path => path
  | .copy stream => stream

/-! ## Scripts -/

/-- How a script is run inside of another. -/
abbrev Runner := Streams → Script → State → State

/-- What a script writes, and the shell afterwards. -/
def outputOf (run : Runner) (streams : Streams) (script : List Char) (state : State) :
    List Char × State :=
  match readScript script with
  | none => ([], state.setCode 2)
  | some script =>
    let depth := streams.nextDepth
    let inner := { streams with output := .pipe depth, nextDepth := depth + 1 }
    let after := state.afterApart (run inner script state)
    (valueOfBytes (collected depth after.written).bytes,
      { after with written := after.written.filter (fun w => w.depth != depth) })

/-- The fields of a word. -/
def expandWord (run : Runner) (streams : Streams) : Word → Fields → State → Fields × State
  | [], fields, state => (fields, state)
  | .literal text quoted :: rest, fields, state =>
    let fields := if quoted || !text.isEmpty then fields.extend text else fields
    expandWord run streams rest fields state
  | .parameter name quoted :: rest, fields, state =>
    let fields :=
      if name = "@" && quoted then
        match state.arguments.map String.toList with
        | [] => fields
        | first :: others =>
          others.foldl (fun fields a => fields.close.extend a) (fields.extend first)
      else fields.add quoted (state.value name).toList
    expandWord run streams rest fields state
  | .arithmetic expression quoted :: rest, fields, state =>
    match Arithmetic.number state.value expression with
    | some n => expandWord run streams rest (fields.add quoted (toString n).toList) state
    | none => (fields, state.leave 2)
  | .output script quoted :: rest, fields, state =>
    let (text, state) := outputOf run streams script state
    expandWord run streams rest (fields.add quoted text) state

/-- The fields of several words. -/
def expandWords (run : Runner) (streams : Streams) : List Word → State → List String × State
  | [], state => ([], state)
  | word :: rest, state =>
    let (fields, state) := expandWord run streams word .empty state
    let (others, state) := expandWords run streams rest state
    (fields.toList ++ others, state)

/-- The text of a word that is not cut into fields. -/
def expandText (run : Runner) (streams : Streams) (word : Word) (state : State) :
    String × State :=
  let (fields, state) := expandWord run streams word .empty state
  (String.intercalate " " fields.toList, state)

/-- The streams of a command and the shell, after all changes of streams. -/
def redirectAll (run : Runner) : List Redirect → Streams → State → State × Streams
  | [], streams, state => (state, streams)
  | r :: rest, streams, state =>
    let (path, state) := expandText run streams r.target.word state
    let (state, streams) := redirect state streams r path
    redirectAll run rest streams state

/-- The shell after assignments. -/
def assignAll (run : Runner) (streams : Streams) : List (String × Word) → State → State
  | [], state => state
  | (name, word) :: rest, state =>
    let (value, state) := expandText run streams word state
    assignAll run streams rest (state.assign name value)

/-- The text of the script in the file at a path. -/
def scriptFile (files : Node) (path : String) : Option (List Char) :=
  match files.find path >>= Node.readBytes with
  | .ok bytes => Text.Utf8.decode bytes
  | .error _ => none

/-- What the arguments of a shell ask for: the text of its script, where it is there, with the name
and the arguments of the script.  Without arguments the script is the empty input. -/
def shellArguments (files : Node) (name : String) :
    List String → Option (List Char) × String × List String
  | [] => (some [], name, [])
  | ["-c"] => (none, name, [])
  | ["-c", script] => (some script.toList, name, [])
  | "-c" :: script :: name :: arguments => (some script.toList, name, arguments)
  | path :: arguments => (scriptFile files path, path, arguments)

/-- A shell of its own after it has run the script in its arguments. -/
def shellState (run : Runner) (streams : Streams) (name : String) (arguments : List String)
    (state : State) : State :=
  let (text, name, arguments) := shellArguments state.files name arguments
  match text.bind readScript with
  | none => state.setCode 2
  | some script =>
    run streams script
      { state with name, arguments, code := 0, ended := none, time := state.time + startTime }

/-- Runs a shell of its own as a command. -/
def runShell (run : Runner) (streams : Streams) (name : String) (arguments : List String)
    (state : State) : State :=
  let after := shellState run streams name arguments state
  let code := (after.ended.map Status.shellCode).getD after.code
  { state.afterApart after with code, ended := none }

/-- Runs a command that is part of the shell, if it is one. -/
def builtin (state : State) (streams : Streams) (name : String) (arguments : List String) :
    Option State :=
  match name with
  | "exit" =>
    match arguments with
    | [] => some (state.leave state.code)
    | n :: _ =>
      match readDigits n.toList with
      | some n => some (state.leave (n % 256))
      | none => some (state.leave 2)
  | "kill" => some (state.kill arguments)
  | "wait" => some ((state.waitUntil state.jobsEnd).setCode 0)
  | "shift" => some { state with arguments := state.arguments.drop 1, code := 0 }
  | "export" => some (state.setCode 0)
  | "trap" => some (state.setCode 0)
  | "set" => some (state.setCode 0)
  | "cd" => some (state.setCode 0)
  | _ =>
    match shellTools.lookup name with
    | some tool => some (state.perform streams (tool ⟨arguments, streams.input, state.files⟩))
    | none => none

/-- The names under which the shell is run. -/
def shellNames : List String := ["sh", "dash"]

/-- Runs a command with its arguments. -/
def runCommand (run : Runner) (streams : Streams) (state : State) : List String → State
  | [] => state
  | "exec" :: name :: arguments =>
    let after := state.runProgram streams name arguments
    after.leave after.code
  | name :: arguments =>
    match builtin state streams name arguments with
    | some state => state
    | none =>
      match state.files.program name with
      | .ok path =>
        if shellNames.contains (baseName path) then runShell run streams name arguments state
        else state.runProgram streams name arguments
      | .error _ => state.setCode (missingCode state.files name)

/-- Whether a script that is run beside the shell holds the shell's output open. -/
def holdsOutput : Script → Bool
  | .command _ _ redirects => redirects.all (fun r => r.stream ≠ 1)
  | .redirected _ redirects => redirects.all (fun r => r.stream ≠ 1)
  | _ => true

/-- The shell after a script that is run beside it. -/
def beside (script : Script) (outer inner : State) : State :=
  { outer with
    files := inner.files
    code := 0
    written := inner.written
    jobsEnd := max outer.jobsEnd (max inner.time inner.jobsEnd)
    heldUntil :=
      if holdsOutput script then max outer.heldUntil (max inner.time inner.heldUntil)
      else outer.heldUntil
    ended :=
      match inner.ended with
      | some (.killed signal) => some (.killed signal)
      | _ => outer.ended }

/-- Runs a script, in at most so many steps. -/
def runScript : Nat → Streams → Script → State → State
  | 0, _, _, state => { state with time := max state.time never }
  | fuel + 1, streams, script, state =>
    if state.ended.isSome then state
    else
      let run := runScript fuel
      match script with
      | .nothing => state
      | .command assignments words redirects =>
        let (fields, state) := expandWords run streams words state
        let (state, streams) := redirectAll run redirects streams state
        if state.ended.isSome then state
        else if fields.isEmpty then assignAll run streams assignments (state.setCode 0)
        else
          let parameters := state.parameters
          let after := runCommand run streams (assignAll run streams assignments state) fields
          if assignments.isEmpty then after else { after with parameters }
      | .redirected body redirects =>
        let (state, inner) := redirectAll run redirects streams state
        run inner body state
      | .apart body => state.afterApart (run streams body state)
      | .pipe left right =>
        let depth := streams.nextDepth
        let first :=
          run { streams with output := .pipe depth, nextDepth := depth + 1 } left state
        let flow := collected depth first.written
        let middle : State :=
          { state.afterApart first with
            time := state.time
            code := 0
            written := first.written.filter (fun w => w.depth != depth) }
        let inputEnds := if flow.endless then state.time else first.time
        let second :=
          run { streams with input := flow, inputEnds, nextDepth := depth + 1 } right middle
        let after := state.afterApart second
        if flow.endless then after else after.waitUntil first.time
      | .negated body =>
        let after := run streams body state
        after.setCode (if after.code = 0 then 1 else 0)
      | .both left right =>
        let after := run streams left state
        if after.code = 0 then run streams right after else after
      | .either left right =>
        let after := run streams left state
        if after.code = 0 then after else run streams right after
      | .sequence left right => run streams right (run streams left state)
      | .background body =>
        beside body state (run { streams with input := .empty, inputEnds := 0 } body state)
      | .branch condition yes no =>
        let after := run streams condition state
        if after.ended.isSome then after
        else if after.code = 0 then run streams yes after
        else
          match no with
          | .nothing => after.setCode 0
          | no => run streams no after
      | .loop untilSuccess condition body =>
        let after := run streams condition state
        if after.ended.isSome then after
        else if (after.code = 0) = (untilSuccess = true) then after.setCode 0
        else run streams script (run streams body after)
      | .each name values body =>
        let (fields, state) := expandWords run streams values state
        match fields with
        | [] => state.setCode 0
        | _ =>
          fields.foldl
            (fun state value =>
              if state.ended.isSome then state else run streams body (state.assign name value))
            state

end HostVitals.Shell
