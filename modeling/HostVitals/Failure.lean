import HostVitals.Files.SystemError

/-!
# Failures of probes and collectors

Why a probe or a collector gave no data, and the words in which each cause is told.  A failure
that means "there is nothing to report" is told apart from all others.
-/

namespace HostVitals

open HostVitals.Files

/-- Why a stream or a file could not be used. -/
inductive IoCause where
  /-- The operating system refused. -/
  | system (error : SystemError)
  | words (text : String)
  deriving DecidableEq

/-- The words for a cause. -/
def IoCause.message : IoCause → String
  | .system error => error.message
  | .words text => text

/-- The cause of reading bytes as a text that are none. -/
def IoCause.notText : IoCause := .words "stream did not contain valid UTF-8"

/-- Why there is no data. -/
inductive Failure where
  /-- A stream or a file could not be used. -/
  | io (cause : IoCause)
  | noBatteryData
  | batteryCollection (reason : String)
  /-- A command did not run or did not succeed. -/
  | commandFailed (program reason : String)
  /-- A command did not end in time. -/
  | commandTimeout (program : String) (milliseconds : UInt64)
  | unsupported (what : String)
  /-- The sensor facility failed, with its own words. -/
  | sensors (reason : String)
  /-- Any other cause, in its own words. -/
  | other (text : String)
  deriving DecidableEq

namespace Failure

/-- The words for a failure. -/
def message : Failure → String
  | .io cause => "IO error: " ++ cause.message
  | .noBatteryData => "no battery data found"
  | .batteryCollection reason => "battery collection failed: " ++ reason
  | .commandFailed program reason => "command `" ++ program ++ "` failed: " ++ reason
  | .commandTimeout program milliseconds =>
    "command `" ++ program ++ "` timed out after " ++ toString milliseconds.toNat ++ " ms"
  | .unsupported what => "Not supported on this platform: " ++ what
  | .sensors reason => reason
  | .other text => text

/-- Whether the failure means that there is nothing to report. -/
def isNoData : Failure → Bool
  | .noBatteryData => true
  | _ => false

end Failure

end HostVitals
