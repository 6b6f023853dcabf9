/-!
# Breakdowns

A piece of code that breaks down gives no answer at all, not even a failure.  It may leave a
message behind.
-/

namespace HostVitals

/-- How a piece of code broke down. -/
inductive Breakdown where
  | told (message : String)
  /-- It left nothing that can be read. -/
  | untold
  deriving DecidableEq

/-- The reason that is given for a breakdown. -/
def Breakdown.reason : Breakdown → String
  | .told message => message
  | .untold => "unknown panic"

end HostVitals
