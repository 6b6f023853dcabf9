import HostVitals.Collect.Batteries
import HostVitals.Collect.Thermal
import HostVitals.Snapshot

/-!
# Collecting everything

A round of all collectors: batteries, then sensors, then fan and temperature.  What fails is
recorded in the snapshot.
-/

namespace HostVitals.Collect

variable {σ : Type}

/-- The sensor readings of the host. -/
def sensors (station : Station σ) : Collect σ (Answer (List Reading)) := do
  return (← ask station.sensors).map readings

/-- Work that does not break down, as work that may. -/
def ofSafely {α : Type} (work : Safely σ α) : Collect σ α := fun session =>
  let (a, session) := work session
  (.ok a, session)

/-- The list in an answer, empty when there is none. -/
def listOf {α : Type} (answer : Answer (List α)) : List α :=
  match answer with
  | .ok items => items
  | .error _ => []

/-- The words of a failure, when there is one. -/
def errorOf {α : Type} (answer : Answer α) : Option String :=
  match answer with
  | .ok _ => none
  | .error failure => some failure.message

/-- Everything there is to know at a time. -/
def snapshot (station : Station σ) (time : Time.Instant) : Collect σ Snapshot := do
  let batteries ← ofSafely (batteries station)
  let sensors ← sensors station
  let thermal ← thermal station
  return {
    collectedAt := time
    platform := station.platform.name
    batteries := listOf batteries
    batteryError := errorOf batteries
    thermal
    sensors := listOf sensors
    sensorError := errorOf sensors }

end HostVitals.Collect
