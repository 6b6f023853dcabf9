import HostVitals.Execution.Command
import HostVitals.Shell.Run

/-!
# A machine with a small shell

For trials there is a machine whose programs are a small shell and the tools that scripts use most.
What they would write and how long they would take is worked out in advance.
-/

namespace HostVitals.Execution

open HostVitals.Files HostVitals.Shell

/-! ## What a process does -/

/-- The streams of a command: it reads nothing, its output is taken, and its messages are
dropped. -/
def commandStreams : Streams where
  input := .empty
  inputEnds := 0
  output := .pipe 0
  messages := .nowhere
  nextDepth := 1

/-- The process of a program with its arguments. -/
def processState (files : Node) (program : String) (arguments : List String) : State :=
  let run := runScript mostSteps
  let start := State.start files program []
  if shellNames.contains (baseName program) then
    shellState run commandStreams program arguments start
  else start.runProgram commandStreams program arguments

/-- A time, unless it is never reached. -/
def reached (time : Nat) : Option Nat :=
  if time < never then some time else none

/-- What is reached at last is reached after all that comes before it. -/
theorem reached_of_le {first last close : Nat} (h : first ≤ last)
    (hlast : reached last = some close) :
    ∃ time ∈ reached first, time ≤ close := by
  unfold reached at hlast ⊢
  split at hlast
  · next hnever =>
    cases hlast
    exact ⟨first, by simp [Nat.lt_of_le_of_lt h hnever], h⟩
  · cases hlast

/-- The process in time, as its end state tells. -/
def timelineOf (state : State) : Timeline :=
  let output := collected 0 state.written
  { ends := reached state.time
    closes := reached (max state.time state.heldUntil)
    ends_le_closes := fun _ => reached_of_le (Nat.le_max_left _ _)
    status := state.ended.getD (.exited state.code)
    output := output.bytes }

/-- The machine with the given files whose processes are those of the small shell.  They work in the
root directory. -/
def shellMachine (files : Node) : Machine where
  files
  workingDirectory := "/"
  process program arguments := timelineOf (processState files program arguments)

/-- What a command gives on the machine with the small shell. -/
def answer (files : Node) (usual : UInt64) (command : Command) : Option (Answer String) :=
  (shellMachine files).answer usual command

end HostVitals.Execution
