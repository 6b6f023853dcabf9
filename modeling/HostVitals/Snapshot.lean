import HostVitals.Battery
import HostVitals.Sensor
import HostVitals.Thermal
import HostVitals.Time.Rfc3339

/-!
# Snapshots

Everything the collectors found in one round, with the failures of the parts that failed.
-/

namespace HostVitals

/-- What was found in one round. -/
structure Snapshot where
  collectedAt : Time.Instant
  platform : String
  /-- The batteries, none when they could not be read. -/
  batteries : List Battery
  batteryError : Option String
  thermal : Thermal
  /-- The sensors, none when they could not be read. -/
  sensors : List Reading
  sensorError : Option String
  deriving DecidableEq

end HostVitals
