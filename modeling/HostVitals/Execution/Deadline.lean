import HostVitals.Failure
import HostVitals.Execution.Status
import HostVitals.Text.Blank
import HostVitals.Text.Utf8
import HostVitals.Time.Calendar

/-!
# Waiting for a process

A process is looked at in regular intervals until it has ended or its time is over.  When it has
ended in time its output is read to the end, which may take longer: other processes that it left
behind may still hold the output open.

Main results:

- `Step`: the waiting as a relation between the states that it goes through.
-/

namespace HostVitals.Execution

open HostVitals.Text HostVitals.Time

/-- The nanoseconds between two looks at a process. -/
def lookInterval : Nat := 10000000

/-! ## States of waiting -/

/-- What is waited for. -/
inductive Phase where
  | process
  | output
  | done
  deriving DecidableEq

/-- What happens outside: when the process ends, and when its output is closed by all that hold
it.  What never happens has no time. -/
structure Course where
  ends : Option Nat
  closes : Option Nat
  /-- The process holds its output until it ends. -/
  ends_le_closes : ∀ close ∈ closes, ∃ last ∈ ends, last ≤ close

/-- Whether something that has a time has happened by now. -/
def happened (time : Option Nat) (now : Nat) : Bool :=
  time.any (fun t => decide (t ≤ now))

/-- A state of waiting. -/
structure Wait where
  phase : Phase
  /-- The time since the process was started. -/
  time : Nat
  /-- Whether the process has ended. -/
  ended : Bool
  /-- Whether its output has been closed by all that hold it. -/
  closed : Bool
  deriving DecidableEq

/-- Whether something is still waited for. -/
def Wait.waiting (wait : Wait) : Bool :=
  wait.phase ≠ .done

/-- The state in a phase at a time, as what happens outside makes it. -/
def Course.state (course : Course) (phase : Phase) (time : Nat) : Wait :=
  ⟨phase, time, happened course.ends time, happened course.closes time⟩

/-- A step of waiting with a limit, given what happens outside.  Time passes only between two looks
at the process and while the output is open. -/
inductive Step (limit : Nat) (course : Course) : Wait → Wait → Prop where
  /-- The process is seen to have ended. -/
  | ended {wait : Wait} (hphase : wait.phase = .process) (hended : wait.ended = true) :
      Step limit course wait { wait with phase := .output }
  /-- The process is given up. -/
  | givenUp {wait : Wait} (hphase : wait.phase = .process) (hended : wait.ended = false)
      (hlimit : limit ≤ wait.time) : Step limit course wait { wait with phase := .done }
  /-- The process is looked at again later. -/
  | again {wait : Wait} (hphase : wait.phase = .process) (hended : wait.ended = false)
      (hlimit : wait.time < limit) :
      Step limit course wait (course.state .process (wait.time + lookInterval))
  /-- The output stays open for a while. -/
  | held {wait : Wait} {later : Nat} (hphase : wait.phase = .output)
      (hlater : wait.time ≤ later)
      (hopen : ∀ now, wait.time ≤ now → now < later → happened course.closes now = false) :
      Step limit course wait (course.state .output later)
  | closed {wait : Wait} (hphase : wait.phase = .output) (hclosed : wait.closed = true) :
      Step limit course wait { wait with phase := .done }

/-- The states that waiting can reach. -/
inductive Reached (limit : Nat) (course : Course) : Wait → Prop where
  | start : Reached limit course (course.state .process 0)
  | step {a b : Wait} (h : Reached limit course a) (hstep : Step limit course a b) :
      Reached limit course b

/-! ## Outcome -/

/-- A process in time: what happens to it, how it ends and what it writes. -/
structure Timeline extends Course where
  status : Status
  /-- What is written until the output is closed. -/
  output : List UInt8

/-- The first look at or after a time. -/
def firstLook (time : Nat) : Nat :=
  (time + (lookInterval - 1)) / lookInterval * lookInterval

/-- Whether the process is given up: it is still running at the first look after its limit. -/
def Timeline.timedOut (timeline : Timeline) (limit : Nat) : Bool :=
  match timeline.ends with
  | none => true
  | some ends => decide (firstLook limit < ends)

/-- What a process that ended gives: its output without the blanks around it. -/
def endedAnswer (program : String) (status : Status) (output : List UInt8) :
    Except Failure String :=
  match Utf8.decode output with
  | none => .error (.io .notText)
  | some cs =>
    if status.succeeded then .ok (String.ofList (trim cs))
    else .error (.commandFailed program status.message)

/-- What waiting for a process gives, with a limit in milliseconds.  There is nothing when the
output of a process that has ended is never closed. -/
def Timeline.answer (timeline : Timeline) (program : String) (milliseconds : UInt64) :
    Option (Except Failure String) :=
  if timeline.timedOut (milliseconds.toNat * nanosPerMilli) then
    some (.error (.commandTimeout program milliseconds))
  else timeline.closes.map (fun _ => endedAnswer program timeline.status timeline.output)

/-- The first look after a time is not before it. -/
theorem le_firstLook (time : Nat) : time ≤ firstLook time := by
  unfold firstLook lookInterval
  omega

/-- The first look after a time comes within the interval. -/
theorem firstLook_lt (time : Nat) : firstLook time < time + lookInterval := by
  unfold firstLook lookInterval
  omega

end HostVitals.Execution
