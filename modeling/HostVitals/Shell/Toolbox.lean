import HostVitals.Shell.Filters
import HostVitals.Shell.Sources

/-!
# All tools

The tools by name: those that the shell has of its own, and those that are programs.
-/

namespace HostVitals.Shell

/-- The tools that the shell has of its own. -/
def shellTools : List (String × (Task → Effect)) :=
  [("echo", shellEcho), ("printf", shellPrintf), ("true", fun _ => .exit 0),
   ("false", fun _ => .exit 1), (":", fun _ => .exit 0), ("test", test), ("[", bracket)]

/-- The tools that are programs. -/
def programTools : List (String × (Task → Effect)) :=
  [("echo", echoProgram), ("printf", printfProgram), ("true", fun _ => .exit 0),
   ("false", fun _ => .exit 1), ("test", test), ("[", bracket), ("cat", cat), ("head", head),
   ("tail", tail), ("tr", tr), ("wc", wc), ("sleep", sleep), ("seq", seq), ("yes", yes),
   ("kill", fun _ => .exit 1)]

end HostVitals.Shell
