import HostVitals.Files.Tree
import HostVitals.Json.Reader
import HostVitals.Json.Record
import HostVitals.Json.Writer
import HostVitals.Text.Quoted
import HostVitals.Time.Calendar

/-!
# Settings of the collectors

The settings are kept as JSON in a file.  What the file leaves out has its standard value; a file
that is missing, blank or broken gives the standard settings altogether.

Main results:

- `load_missing`: a missing file gives the standard settings.
-/

namespace HostVitals

open HostVitals.Files HostVitals.Json HostVitals.Number HostVitals.Text

/-- The settings of the collectors. -/
structure Config where
  /-- For how many seconds a power profile is used again. -/
  profileSeconds : UInt64
  /-- For how many milliseconds a probe may run that ought to be fast. -/
  fastMillis : UInt64
  /-- For how many milliseconds the power profile may take. -/
  slowMillis : UInt64
  /-- For how many milliseconds any other command may run. -/
  commandMillis : UInt64
  supplyRoot : String
  deriving DecidableEq

namespace Config

/-- The standard settings. -/
def standard : Config where
  profileSeconds := 30
  fastMillis := 500
  slowMillis := 3000
  commandMillis := 2000
  supplyRoot := "/sys/class/power_supply"

/-! ## JSON form -/

/-- The names of the settings. -/
def fields : List String :=
  ["power_cache_ttl_secs", "fast_probe_timeout_ms", "slow_probe_timeout_ms", "command_timeout_ms",
   "power_supply_root"]

/-- The JSON form of the settings. -/
def toJson (config : Config) : Value :=
  .object [member "power_cache_ttl_secs" (.ofNat config.profileSeconds.toNat),
    member "fast_probe_timeout_ms" (.ofNat config.fastMillis.toNat),
    member "slow_probe_timeout_ms" (.ofNat config.slowMillis.toNat),
    member "command_timeout_ms" (.ofNat config.commandMillis.toNat),
    member "power_supply_root" (.ofText config.supplyRoot)]

/-- The settings with a JSON form. -/
def ofJson? (value : Value) : Option Config := do
  match ← slots fields value with
  | [profileSeconds, fastMillis, slowMillis, commandMillis, supplyRoot] =>
    return {
      profileSeconds := ← profileSeconds.defaulted standard.profileSeconds Value.toUInt64?
      fastMillis := ← fastMillis.defaulted standard.fastMillis Value.toUInt64?
      slowMillis := ← slowMillis.defaulted standard.slowMillis Value.toUInt64?
      commandMillis := ← commandMillis.defaulted standard.commandMillis Value.toUInt64?
      supplyRoot := ← supplyRoot.defaulted standard.supplyRoot Value.toText? }
  | _ => none

/-! ## Durations -/

export Time (nanosPerSecond nanosPerMilli)

/-- For how many nanoseconds a power profile is used again. -/
def timeToLive (config : Config) : Nat :=
  config.profileSeconds.toNat * nanosPerSecond

/-- A number of nanoseconds as seconds with nine places. -/
def durationText (nanos : Nat) : String :=
  String.ofList
    (natDigits (nanos / nanosPerSecond) ++ '.' :: paddedDigits 9 (nanos % nanosPerSecond))

/-- The four durations of the settings: of the power profile in use, and of the three limits. -/
def durations (config : Config) : List String :=
  [durationText config.timeToLive, durationText (config.fastMillis.toNat * nanosPerMilli),
   durationText (config.slowMillis.toNat * nanosPerMilli),
   durationText (config.commandMillis.toNat * nanosPerMilli)]

/-! ## Settings files -/

/-- Settings with the number of warnings that reading them gave. -/
structure Loaded where
  config : Config
  /-- How often it was noted that a file is broken. -/
  warnings : Nat
  deriving DecidableEq

/-- The standard settings, without a warning. -/
def Loaded.standard : Loaded := ⟨.standard, 0⟩

/-- Whether a byte is an ASCII blank. -/
def isBlankByte (b : UInt8) : Bool :=
  b == 0x20 || b == 0x09 || b == 0x0A || b == 0x0C || b == 0x0D

/-- The settings that a document given as bytes stands for. -/
def decode (bytes : List UInt8) : Option Config :=
  (ofBytes bytes).bind ofJson?

/-- The settings in a file with the given bytes. -/
def ofContent (bytes : List UInt8) : Loaded :=
  if bytes.all isBlankByte then .standard
  else
    match decode bytes with
    | some config => ⟨config, 0⟩
    | none => ⟨.standard, 1⟩

/-- Why settings could not be loaded. -/
structure LoadError where
  path : String
  /-- What is wrong with it. -/
  cause : IoCause
  deriving DecidableEq

/-- What the trouble is, and then its cause. -/
def LoadError.chain (error : LoadError) : List String :=
  ["Failed to read config file: " ++ String.ofList (quoted error.path.toList), error.cause.message]

/-- The settings in what was found at a path. -/
def ofFound (path : String) : Except IoCause Node → Except LoadError Loaded
  | .error _ => .ok .standard
  | .ok node =>
    match node.readBytes with
    | .ok bytes => .ok (ofContent bytes)
    | .error cause => .error ⟨path, cause⟩

/-- The settings in the file at a path, as seen from a working directory. -/
def load (root : Node) (path : String) (workingDirectory : String := "/") :
    Except LoadError Loaded :=
  ofFound path (root.find path workingDirectory)

/-- A missing file gives the standard settings. -/
theorem load_missing {root : Node} {path workingDirectory : String} {cause : IoCause}
    (h : root.find path workingDirectory = .error cause) :
    load root path workingDirectory = .ok .standard := by
  simp [load, ofFound, h]

/-! ## The usual place -/

/-- Where a user's files are, as far as the environment tells. -/
structure Places where
  /-- The directory for settings, if one is named. -/
  configHome : Option String
  /-- The home directory, if one is named. -/
  home : Option String
  /-- The home directory that the system knows for the user. -/
  systemHome : String

/-- The home directory: the one that is named, or else the one the system knows. -/
def Places.homeDirectory (places : Places) : String :=
  match places.home.filter (fun path => !path.isEmpty) with
  | some path => path
  | none => places.systemHome

/-- The directory for settings.  It has to start at the root to be used. -/
def Places.configDirectory (places : Places) : String :=
  match places.configHome.filter isAbsolute with
  | some path => path
  | none => joinPath places.homeDirectory ".config"

/-- The path of the settings file in its usual place. -/
def Places.configPath (places : Places) : String :=
  joinPath (joinPath places.configDirectory "hwsnap") "config.json"

end Config

end HostVitals
