import HostVitals.Json.Reader
import HostVitals.Json.Record
import HostVitals.Json.Writer
import HostVitals.Snapshot

/-!
# The JSON forms of the records

How batteries, fan and temperature, sensor readings and snapshots are written as JSON and read
back.  The members stand in the order of the fields.  A number that is not finite is written as
`null`, which no number is read from.

Main results:

- `TemperatureSource.ofJson_toJson`, `ChargeState.ofJson_toJson`: names read back.
-/

namespace HostVitals

open HostVitals.Json HostVitals.Time

/-! ## Batteries -/

/-- The names of the fields of a battery. -/
def Battery.fields : List String :=
  ["percent", "status", "time_left", "health", "cycle_count"]

/-- The JSON form of a battery. -/
def Battery.toJson (battery : Battery) : Value :=
  .object [member "percent" (.ofBinary64 battery.percent),
    member "status" (.ofText battery.status),
    member "time_left" (.ofOptionalText battery.timeLeft),
    member "health" (.ofOptionalText battery.health),
    member "cycle_count" (.ofNat battery.cycleCount.toNat)]

/-- The battery with a JSON form. -/
def Battery.ofJson? (value : Value) : Option Battery := do
  match ← slots fields value with
  | [percent, status, timeLeft, health, cycleCount] =>
    return {
      percent := ← percent.required Value.toBinary64?
      status := ← status.required Value.toText?
      timeLeft := ← timeLeft.optional Value.toText?
      health := ← health.optional Value.toText?
      cycleCount := ← cycleCount.required Value.toUInt32? }
  | _ => none

/-- The names of the classes of a charging state. -/
def ChargeState.names : List (String × ChargeState) :=
  [("Charging", .charging), ("Discharging", .discharging), ("Full", .full),
   ("NotCharging", .notCharging), ("Unknown", .unknown)]

/-- The name of a class. -/
def ChargeState.name : ChargeState → String
  | .charging => "Charging"
  | .discharging => "Discharging"
  | .full => "Full"
  | .notCharging => "NotCharging"
  | .unknown => "Unknown"

/-- The JSON form of a class. -/
def ChargeState.toJson (state : ChargeState) : Value :=
  .ofText state.name

/-- The class with a JSON form. -/
def ChargeState.ofJson? (value : Value) : Option ChargeState :=
  value.toName? names

/-- The name of a class reads back. -/
theorem ChargeState.ofJson_toJson (state : ChargeState) : ofJson? state.toJson = some state := by
  cases state <;> decide

/-! ## Fan and temperature -/

/-- The names of the sources of a temperature. -/
def TemperatureSource.names : List (String × TemperatureSource) :=
  [("None", .none), ("BatterySensor", .batterySensor), ("ThermalLevelEstimate", .thermalLevel)]

/-- The name of a source. -/
def TemperatureSource.name : TemperatureSource → String
  | .none => "None"
  | .batterySensor => "BatterySensor"
  | .thermalLevel => "ThermalLevelEstimate"

/-- The JSON form of a source. -/
def TemperatureSource.toJson (source : TemperatureSource) : Value :=
  .ofText source.name

/-- The source with a JSON form. -/
def TemperatureSource.ofJson? (value : Value) : Option TemperatureSource :=
  value.toName? names

/-- The name of a source reads back. -/
theorem TemperatureSource.ofJson_toJson (source : TemperatureSource) :
    ofJson? source.toJson = some source := by
  cases source <;> decide

/-- The names of the fields of fan and temperature. -/
def Thermal.fields : List String :=
  ["fan_speed", "cpu_temp", "cpu_temp_source"]

/-- The JSON form of fan and temperature. -/
def Thermal.toJson (thermal : Thermal) : Value :=
  .object [member "fan_speed" (.ofNat thermal.fanSpeed.toNat),
    member "cpu_temp" (.ofBinary64 thermal.temperature),
    member "cpu_temp_source" thermal.source.toJson]

/-- Fan and temperature with a JSON form. -/
def Thermal.ofJson? (value : Value) : Option Thermal := do
  match ← slots fields value with
  | [fanSpeed, temperature, source] =>
    return {
      fanSpeed := ← fanSpeed.required Value.toUInt32?
      temperature := ← temperature.required Value.toBinary64?
      source := ← source.defaulted .none TemperatureSource.ofJson? }
  | _ => none

/-! ## Sensor readings -/

/-- The names of the fields of a reading. -/
def Reading.fields : List String :=
  ["label", "value", "unit"]

/-- The JSON form of a reading. -/
def Reading.toJson (reading : Reading) : Value :=
  .object [member "label" (.ofText reading.label),
    member "value" (.ofBinary64 reading.value),
    member "unit" (.ofText reading.unit)]

/-- The reading with a JSON form. -/
def Reading.ofJson? (value : Value) : Option Reading := do
  match ← slots fields value with
  | [label, value, unit] =>
    return {
      label := ← label.required Value.toText?
      value := ← value.required Value.toBinary64?
      unit := ← unit.required Value.toText? }
  | _ => none

/-! ## Snapshots -/

/-- The names of the fields of a snapshot. -/
def Snapshot.fields : List String :=
  ["collected_at", "platform", "batteries", "battery_error", "thermal", "sensors", "sensor_error"]

/-- The JSON form of a snapshot, with a text for its time. -/
def Snapshot.toJsonAt (snapshot : Snapshot) (time : String) : Value :=
  .object [member "collected_at" (.ofText time),
    member "platform" (.ofText snapshot.platform),
    member "batteries" (.array (snapshot.batteries.map Battery.toJson)),
    member "battery_error" (.ofOptionalText snapshot.batteryError),
    member "thermal" snapshot.thermal.toJson,
    member "sensors" (.array (snapshot.sensors.map Reading.toJson)),
    member "sensor_error" (.ofOptionalText snapshot.sensorError)]

/-- The JSON form of a snapshot. -/
def Snapshot.toJson (snapshot : Snapshot) : Value :=
  snapshot.toJsonAt snapshot.collectedAt.rfc3339

/-- The snapshot with a JSON form. -/
def Snapshot.ofJson? (value : Value) : Option Snapshot := do
  match ← slots fields value with
  | [collectedAt, platform, batteries, batteryError, thermal, sensors, sensorError] =>
    return {
      collectedAt := ← collectedAt.required (fun v => v.toText?.bind Instant.ofRfc3339?)
      platform := ← platform.required Value.toText?
      batteries := ← batteries.required (Value.toList? Battery.ofJson?)
      batteryError := ← batteryError.optional Value.toText?
      thermal := ← thermal.required Thermal.ofJson?
      sensors := ← sensors.required (Value.toList? Reading.ofJson?)
      sensorError := ← sensorError.optional Value.toText? }
  | _ => none

end HostVitals
