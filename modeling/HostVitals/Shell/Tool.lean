import HostVitals.Files.Tree
import HostVitals.Shell.Flow

/-!
# Tools

The small programs that scripts are made of.  Each takes its arguments and its input, writes
something, takes some time and ends with an exit code.
-/

namespace HostVitals.Shell

open HostVitals.Files

/-- What a tool does. -/
structure Effect where
  output : Flow
  code : Nat
  /-- For how many nanoseconds it waits, if it ever goes on. -/
  pause : Option Nat
  /-- Whether it waits for the end of its input. -/
  readsInput : Bool

namespace Effect

/-- Writes something. -/
def write (output : Flow) : Effect := ⟨output, 0, some 0, false⟩

/-- Ends with a code. -/
def exit (code : Nat) : Effect := ⟨.empty, code, some 0, false⟩

/-- Writes what it makes from its input. -/
def filter (output : Flow) : Effect :=
  ⟨output, 0, if output.endless then none else some 0, true⟩

end Effect

/-- What a tool is given. -/
structure Task where
  arguments : List String
  input : Flow
  files : Node

/-! ## Reading files -/

/-- The contents of a file, or the input. -/
def openFile (task : Task) (path : String) : Option Flow :=
  if path = "-" then some task.input
  else if path = "/dev/zero" then some ⟨[], [0]⟩
  else
    match task.files.find path >>= Node.readBytes with
    | .ok bytes => some (.ofBytes bytes)
    | .error _ => none

/-- The contents of several files, the input when none is named, and whether all could be read. -/
def openFiles (task : Task) (paths : List String) : Flow × Bool :=
  let opened := (if paths.isEmpty then ["-"] else paths).map (openFile task)
  (.join (opened.filterMap id), opened.all Option.isSome)

/-- The effect of a filter on files. -/
def filterFiles (task : Task) (paths : List String) (f : Flow → Flow) : Effect :=
  let (flow, complete) := openFiles task paths
  { Effect.filter (f flow) with code := if complete then 0 else 1 }

end HostVitals.Shell
