import HostVitals.Probe
import HostVitals.ProfileCache
import HostVitals.Report.Supply
import HostVitals.Sensor

/-!
# Sessions

A station watches one host: it has the probes of the host's platform, its sensors and a clock.  A
session is what a station remembers between two rounds, and what has happened so far.

Main results:

- `run_ask`: asking a probe runs it on the host and records what happens.
- `run_note`: a note is recorded and nothing else changes.
- `run_bind_ok`, `run_bind_error`: work goes on from where it came to, unless it broke down.
-/

namespace HostVitals

/-- The probes that a platform offers. -/
structure Platform (σ : Type) where
  name : String
  report : Probe σ (Answer String)
  /-- Whether the platform has a power profile. -/
  hasProfile : Bool
  profile : Probe σ (Answer String)
  /-- The temperature next to the battery, in hundredths of a degree. -/
  temperature : Probe σ (Answer String)
  thermalLevel : Probe σ (Answer String)
  supplies : Probe σ (List Report.Supply)

/-- A platform that offers nothing but its name. -/
def Platform.bare (σ : Type) (name : String) : Platform σ where
  name
  report := .unsupported "fast battery report"
  hasProfile := false
  profile := .unsupported "power profile report"
  temperature := .unsupported "battery temperature"
  thermalLevel := .unsupported "cpu thermal level"
  supplies := .constant []

/-- What watches a host. -/
structure Station (σ : Type) where
  platform : Platform σ
  sensors : Probe σ (Answer (List RawTemperature))
  /-- Reads the clock, in nanoseconds. -/
  clock : σ → Nat × σ
  /-- For how many nanoseconds a power profile is used again. -/
  timeToLive : Nat

/-- What a station remembers, and what has happened. -/
structure Session (σ : Type) where
  host : σ
  /-- The power profile that was last got. -/
  cache : Cache
  events : List Event

/-- The session at the start. -/
def Session.start {σ : Type} (host : σ) : Session σ := ⟨host, none, []⟩

/-- Work of a station that may break down.  The session stays usable in any case. -/
abbrev Collect (σ α : Type) := ExceptT Breakdown (StateM (Session σ)) α

/-- Work of a station that does not break down. -/
abbrev Safely (σ α : Type) := StateM (Session σ) α

namespace Collect

variable {σ α β : Type}

/-- Asks a probe. -/
def ask (probe : Probe σ α) : Collect σ α := fun session =>
  let run := probe session.host
  (run.outcome, { session with host := run.host, events := session.events ++ run.events })

/-- Makes a note. -/
def note (level : Level) (message : String) : Collect σ Unit := fun session =>
  (.ok (), { session with events := session.events ++ [.note ⟨level, message⟩] })

/-- Asking a probe runs it on the host and records what happens. -/
theorem run_ask (probe : Probe σ α) (session : Session σ) :
    ask probe session = ((probe session.host).outcome,
      { session with
        host := (probe session.host).host
        events := session.events ++ (probe session.host).events }) := rfl

/-- A note is recorded and nothing else changes. -/
theorem run_note (level : Level) (message : String) (session : Session σ) :
    note level message session =
      (.ok (), { session with events := session.events ++ [.note ⟨level, message⟩] }) := rfl

/-- Giving something leaves the session as it was. -/
theorem run_pure (a : α) (session : Session σ) :
    (pure a : Collect σ α) session = (.ok a, session) := rfl

/-- Work goes on with what was given, from the session that was left. -/
theorem run_bind_ok {work : Collect σ α} {session after : Session σ} {a : α}
    (h : work session = (.ok a, after)) (next : α → Collect σ β) :
    (work >>= next) session = next a after := by
  change ExceptT.bindCont next (work session).1 (work session).2 = _
  rw [h]
  rfl

/-- Work that broke down does not go on. -/
theorem run_bind_error {work : Collect σ α} {session after : Session σ} {breakdown : Breakdown}
    (h : work session = (.error breakdown, after)) (next : α → Collect σ β) :
    (work >>= next) session = (.error breakdown, after) := by
  change ExceptT.bindCont next (work session).1 (work session).2 = _
  rw [h]
  rfl

end Collect

end HostVitals
