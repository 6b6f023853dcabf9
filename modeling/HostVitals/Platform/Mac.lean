import HostVitals.Config
import HostVitals.Session

/-!
# macOS

On macOS every probe is a command: `pmset`, `system_profiler`, `ioreg` through a shell, and
`sysctl`.
-/

namespace HostVitals.Platform

variable {σ : Type}

/-- Runs a command and gives its output. -/
abbrev Runner (σ : Type) := Command → Probe σ (Answer String)

/-- The command of the fast battery report. -/
def batteryCommand : Command where
  program := "pmset"
  arguments := ["-g", "batt"]
  limit := none

/-- The command of the power profile. -/
def profileCommand (config : Config) : Command where
  program := "system_profiler"
  arguments := ["SPPowerDataType"]
  limit := some config.slowMillis

/-- What the shell does to get the temperature next to the battery. -/
def temperatureScript : String :=
  "ioreg -rn AppleSmartBattery | awk '/\"Temperature\"/ \x7bprint $3\x7d'"

/-- The command of the battery temperature. -/
def temperatureCommand (config : Config) : Command where
  program := "sh"
  arguments := ["-c", temperatureScript]
  limit := some config.fastMillis

/-- The command of the thermal level. -/
def levelCommand (config : Config) : Command where
  program := "sysctl"
  arguments := ["-n", "machdep.xcpm.cpu_thermal_level"]
  limit := some config.fastMillis

/-- The platform of a host with macOS. -/
def mac (runner : Runner σ) (hasPmset : Bool) (config : Config) : Platform σ where
  name := "macos"
  report := if hasPmset then runner batteryCommand else .unsupported "pmset not found"
  hasProfile := true
  profile := runner (profileCommand config)
  temperature := runner (temperatureCommand config)
  thermalLevel := runner (levelCommand config)
  supplies := .constant []

end HostVitals.Platform
