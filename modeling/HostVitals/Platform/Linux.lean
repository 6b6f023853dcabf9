import HostVitals.Session
import HostVitals.Supplies

/-!
# Linux and other hosts

On Linux the kernel's directory of power supplies is read.  Other hosts have no probe at all.
-/

namespace HostVitals.Platform

open HostVitals.Files

variable {σ : Type}

/-- The platform of a host with Linux, where `files` gives the files of the host and `path` is the
directory of the power supplies, as seen from the working directory. -/
def linux (files : σ → Node) (path : String) (workingDirectory : String := "/") : Platform σ :=
  { bare σ "linux" with
    supplies := fun host =>
      let (supplies, notes) := scan (files host) path workingDirectory
      ⟨.ok supplies, notes.map .note, host⟩ }

/-- The platform of a host without any known probe. -/
def generic (σ : Type) : Platform σ := bare σ "generic"

/-- The note that is made when a platform is chosen. -/
def chosenNote (platform : Platform σ) : LogRecord :=
  ⟨.info, "Using " ++ platform.name ++ " power probes"⟩

end HostVitals.Platform
