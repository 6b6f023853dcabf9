import HostVitals.Report.PowerProfile
import HostVitals.Session

/-!
# Getting the power profile

The power profile is got through the cache, for the batteries and for the fan alike.

Main results:

- `run_keptText_fresh`: a fresh text costs nothing.
- `run_keptText_stale`: otherwise the probe is run once.
- `run_powerText_fresh`, `run_powerText_stale`: the same for the power profile, after one look at
  the clock.
-/

namespace HostVitals.Collect

variable {σ : Type}

/-- The text that is kept, asked for with a probe when none is fresh at a clock reading. -/
def keptText (timeToLive now : Nat) (probe : Probe σ (Answer String)) : Collect σ String :=
  fun session =>
    if session.cache.isFresh timeToLive now then (.ok session.cache.text, session)
    else
      let run := probe session.host
      let access := session.cache.refresh now run.outcome
      (access.outcome,
        { host := run.host
          cache := access.cache
          events := session.events ++ run.events ++ access.notes.map .note })

/-- The text of the power profile, empty when there is none. -/
def powerText (station : Station σ) : Collect σ String := fun session =>
  if station.platform.hasProfile then
    let (now, host) := station.clock session.host
    keptText station.timeToLive now station.platform.profile { session with host }
  else (.ok "", session)

/-- What the power profile tells of the batteries. -/
def powerData (station : Station σ) : Collect σ Report.PowerData := do
  return Report.powerData (← powerText station)

/-- A fresh text is given as it is. -/
theorem run_keptText_fresh {timeToLive now : Nat} {session : Session σ}
    (hfresh : session.cache.isFresh timeToLive now = true) (probe : Probe σ (Answer String)) :
    keptText timeToLive now probe session = (.ok session.cache.text, session) := by
  simp [keptText, hfresh]

/-- Without a fresh text the probe is run, and the cache takes in what it gives. -/
theorem run_keptText_stale {timeToLive now : Nat} {session : Session σ}
    (hstale : session.cache.isFresh timeToLive now = false) (probe : Probe σ (Answer String)) :
    let run := probe session.host
    let access := session.cache.refresh now run.outcome
    keptText timeToLive now probe session =
      (access.outcome, ⟨run.host, access.cache,
        session.events ++ run.events ++ access.notes.map .note⟩) := by
  simp [keptText, hstale]

/-- The text of the power profile is the kept one, after one look at the clock. -/
theorem run_powerText {station : Station σ} (hprofile : station.platform.hasProfile = true)
    (session : Session σ) :
    powerText station session =
      keptText station.timeToLive (station.clock session.host).1 station.platform.profile
        { session with host := (station.clock session.host).2 } := by
  simp [powerText, hprofile]

/-- A fresh text of the power profile costs one look at the clock. -/
theorem run_powerText_fresh {station : Station σ} {session : Session σ}
    (hprofile : station.platform.hasProfile = true)
    (hfresh : session.cache.isFresh station.timeToLive (station.clock session.host).1 = true) :
    powerText station session =
      (.ok session.cache.text, { session with host := (station.clock session.host).2 }) := by
  simp [run_powerText hprofile, keptText, hfresh]

/-- Without a fresh text of the power profile its probe is run. -/
theorem run_powerText_stale {station : Station σ} {session : Session σ}
    (hprofile : station.platform.hasProfile = true)
    (hstale : session.cache.isFresh station.timeToLive (station.clock session.host).1 = false) :
    let run := station.platform.profile (station.clock session.host).2
    let access := session.cache.refresh (station.clock session.host).1 run.outcome
    powerText station session =
      (access.outcome, ⟨run.host, access.cache,
        session.events ++ run.events ++ access.notes.map .note⟩) := by
  simp [run_powerText hprofile, keptText, hstale]

/-- Without a power profile there is no text, and nothing happens. -/
theorem run_powerText_missing {station : Station σ}
    (hprofile : station.platform.hasProfile = false) (session : Session σ) :
    powerText station session = (.ok "", session) := by
  simp [powerText, hprofile]

end HostVitals.Collect
