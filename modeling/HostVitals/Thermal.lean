import HostVitals.Number.Binary64

/-!
# Fan and temperature

What is known of the fan and of the temperature of the processor, and where the temperature comes
from.  A temperature may be a measurement or an estimate, and the two are told apart.
-/

namespace HostVitals

open HostVitals.Number

/-- Where a processor temperature comes from. -/
inductive TemperatureSource where
  | none
  | batterySensor
  /-- An estimate from the thermal level of the kernel, which is no measurement. -/
  | thermalLevel
  deriving DecidableEq

/-- Fan speed and processor temperature. -/
structure Thermal where
  /-- The speed of the fan in turns per minute, zero when it is not known. -/
  fanSpeed : UInt32
  /-- The temperature of the processor in degrees Celsius, zero when it is not known. -/
  temperature : Binary64
  source : TemperatureSource
  deriving DecidableEq

namespace Thermal

/-- The status of a host that gives no data. -/
def none : Thermal := ⟨0, .zero, .none⟩

/-- Whether the temperature is an estimate. -/
def isEstimate (thermal : Thermal) : Bool :=
  thermal.source == .thermalLevel

/-- Whether there is neither a fan speed nor a temperature other than zero. -/
def isEmpty (thermal : Thermal) : Bool :=
  thermal.fanSpeed == 0 && thermal.temperature.eq .zero

end Thermal

end HostVitals
