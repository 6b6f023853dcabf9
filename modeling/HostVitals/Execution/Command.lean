import HostVitals.Probe
import HostVitals.Execution.Deadline
import HostVitals.Execution.Programs

/-!
# Running a command

A command is started, waited for until its time is over, and gives what it wrote.  What a program
does when it is started is up to the machine.
-/

namespace HostVitals.Execution

open HostVitals.Files

/-- A machine that commands run on. -/
structure Machine where
  files : Node
  workingDirectory : String
  /-- What a program does when it is started with arguments. -/
  process : String → List String → Timeline

/-- The cause of a program name or an argument that holds a zero character. -/
def zeroInArgument : IoCause := .words "nul byte found in provided data"

/-- The most bytes that an argument may have. -/
def longestArgument : Nat := 131071

namespace Machine

/-- Why a command cannot be started, when it cannot. -/
def startFailure (machine : Machine) (command : Command) : Option IoCause :=
  if (command.program :: command.arguments).any (fun a => a.toList.contains '\x00') then
    some zeroInArgument
  else
    match machine.files.program command.program machine.workingDirectory with
    | .error cause => some cause
    | .ok _ =>
      if command.arguments.any (fun a => decide (longestArgument < a.utf8ByteSize)) then
        some (.system .argumentTooLong)
      else none

/-- The process of a command. -/
def timeline (machine : Machine) (command : Command) : Timeline :=
  machine.process command.program command.arguments

/-- What a command gives, where `usual` is the limit of commands that set none.  There is nothing
when it is waited for without end. -/
def answer (machine : Machine) (usual : UInt64) (command : Command) : Option (Answer String) :=
  match machine.startFailure command with
  | some cause => some (.error (.commandFailed command.program cause.message))
  | none => (machine.timeline command).answer command.program (command.limit.getD usual)

end Machine

end HostVitals.Execution
