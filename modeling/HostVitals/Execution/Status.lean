/-!
# How processes end

A process ends with an exit code or is killed by a signal.
-/

namespace HostVitals.Execution

/-- How a process ended. -/
inductive Status where
  /-- It ended by itself with an exit code. -/
  | exited (code : Nat)
  | killed (signal : Nat)
  deriving DecidableEq

/-- The names of the signals, from the first one on. -/
def signalNames : List String :=
  ["HUP", "INT", "QUIT", "ILL", "TRAP", "ABRT", "BUS", "FPE", "KILL", "USR1", "SEGV", "USR2",
   "PIPE", "ALRM", "TERM", "STKFLT", "CHLD", "CONT", "STOP", "TSTP", "TTIN", "TTOU", "URG", "XCPU",
   "XFSZ", "VTALRM", "PROF", "WINCH", "IO", "PWR", "SYS"]

/-- The name of a signal after its number. -/
def signalSuffix (signal : Nat) : String :=
  match signalNames[signal - 1]? with
  | some name => if signal = 0 then "" else " (SIG" ++ name ++ ")"
  | none => ""

namespace Status

/-- The words for the end of a process. -/
def message : Status → String
  | .exited code => "exit status: " ++ toString code
  | .killed signal => "signal: " ++ toString signal ++ signalSuffix signal

/-- Whether the process did what it was to do. -/
def succeeded (status : Status) : Bool :=
  status == .exited 0

/-- The code that a shell gives to the end of a process. -/
def shellCode : Status → Nat
  | .exited code => code
  | .killed signal => 128 + signal

end Status

end HostVitals.Execution
