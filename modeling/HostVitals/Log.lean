/-!
# Log records

What the collectors note while they work: a level and a message.
-/

namespace HostVitals

/-- How important a record is. -/
inductive Level where
  /-- Of use to those who look for a fault. -/
  | debug
  | info
  /-- Something that ought to be looked at. -/
  | warn
  deriving DecidableEq

/-- The name of a level. -/
def Level.name : Level → String
  | .debug => "DEBUG"
  | .info => "INFO"
  | .warn => "WARN"

/-- A note of the collectors. -/
structure LogRecord where
  level : Level
  message : String
  deriving DecidableEq

end HostVitals
