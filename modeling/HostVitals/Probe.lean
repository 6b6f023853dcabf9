import HostVitals.Breakdown
import HostVitals.Failure
import HostVitals.Log

/-!
# Probes

A probe asks the host for one piece of data.  It may answer, fail or break down; it may call
programs and make notes on the way, which are recorded; and it may change the host, so that the
next probe finds another one.

Main results:

- `callsOf_append`: calls are recorded in order.
-/

namespace HostVitals

/-! ## What is recorded -/

/-- The kinds of data that a host may give. -/
inductive Capability where
  | batteryReport
  /-- The slow, detailed report on the power supply. -/
  | powerProfile
  /-- The temperature of the sensor next to the battery. -/
  | batteryTemperature
  | thermalLevel
  | supplies
  | sensors
  deriving DecidableEq

/-- A program that is run. -/
structure Command where
  program : String
  arguments : List String
  /-- For how many milliseconds it may run, unless it is the usual time. -/
  limit : Option UInt64
  deriving DecidableEq

/-- A call of something outside. -/
inductive Call where
  /-- A kind of data is asked for. -/
  | capability (c : Capability)
  | command (c : Command)
  deriving DecidableEq

/-- Something that happened. -/
inductive Event where
  | call (c : Call)
  | note (record : LogRecord)
  deriving DecidableEq

/-- The calls among events. -/
def callsOf (events : List Event) : List Call :=
  events.filterMap (fun event => match event with
    | .call c => some c
    | .note _ => none)

/-- The notes among events. -/
def notesOf (events : List Event) : List LogRecord :=
  events.filterMap (fun event => match event with
    | .call _ => none
    | .note record => some record)

/-! ## Runs -/

/-- What came of running a probe. -/
structure Run (σ α : Type) where
  /-- The answer, unless the probe broke down. -/
  outcome : Except Breakdown α
  events : List Event
  host : σ

/-- A probe of a host. -/
abbrev Probe (σ α : Type) := σ → Run σ α

/-- An answer, or the reason why there is none. -/
abbrev Answer (α : Type) := Except Failure α

namespace Probe

variable {σ α : Type}

/-- The probe that always gives the same, and does nothing. -/
def constant (a : α) : Probe σ α := fun host => ⟨.ok a, [], host⟩

/-- The probe of a host that cannot give the data. -/
def unsupported (what : String) : Probe σ (Answer α) :=
  constant (.error (.unsupported what))

/-- The probe with a call recorded in front. -/
def recording (call : Call) (probe : Probe σ α) : Probe σ α := fun host =>
  let run := probe host
  { run with events := .call call :: run.events }

end Probe

/-- The calls of two stretches of events come one after the other. -/
@[simp] theorem callsOf_append (as bs : List Event) :
    callsOf (as ++ bs) = callsOf as ++ callsOf bs := by
  simp [callsOf]

end HostVitals
