import HostVitals.Collect.Profile
import HostVitals.Report.Temperature
import HostVitals.Thermal

/-!
# Collecting fan and temperature

The fan speed is taken from the power profile.  The temperature of the processor is taken from the
sensor next to the battery, or else estimated from the thermal level, or else left out.

Main results:

- `thermalStatus_source`: where the temperature comes from says which probe gave it.
-/

namespace HostVitals.Collect

open HostVitals.Number

variable {σ : Type}

/-- The temperature that the sensor next to the battery gives. -/
def measuredTemperature (station : Station σ) : Collect σ (Option Binary64) := do
  match ← ask station.platform.temperature with
  | .ok answer => return Report.batteryTemperature answer
  | .error failure =>
    note .debug ("Battery temperature unavailable: " ++ failure.message)
    return none

/-- The temperature that the thermal level suggests. -/
def estimatedTemperature (station : Station σ) : Collect σ (Option Binary64) := do
  match ← ask station.platform.thermalLevel with
  | .ok answer => return (Report.thermalLevel answer).map Report.estimatedTemperature
  | .error failure =>
    note .debug ("CPU thermal level unavailable: " ++ failure.message)
    return none

/-- The status with a fan speed and with the temperature that was got, by either way. -/
def thermalStatus (fanSpeed : UInt32) (measured estimated : Option Binary64) : Thermal :=
  match measured, estimated with
  | some degrees, _ => ⟨fanSpeed, degrees, .batterySensor⟩
  | none, some degrees => ⟨fanSpeed, degrees, .thermalLevel⟩
  | none, none => ⟨fanSpeed, .zero, .none⟩

/-- Fan and temperature of the host. -/
def thermal (station : Station σ) : Collect σ Thermal := do
  let fanSpeed := (Report.fanSpeed (← powerText station)).getD 0
  let measured ← measuredTemperature station
  if measured.isSome then return thermalStatus fanSpeed measured none
  return thermalStatus fanSpeed none (← estimatedTemperature station)

/-- There is a source exactly when a temperature was got. -/
theorem thermalStatus_source (fanSpeed : UInt32) (measured estimated : Option Binary64) :
    (thermalStatus fanSpeed measured estimated).source = .none ↔
      measured = none ∧ estimated = none := by
  cases measured <;> cases estimated <;> simp [thermalStatus]

end HostVitals.Collect
