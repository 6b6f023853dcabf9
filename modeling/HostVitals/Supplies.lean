import HostVitals.Files.Tree
import HostVitals.Log
import HostVitals.Report.Supply

/-!
# The power supply directory

The kernel keeps a directory with an entry for each power supply.  The entries of batteries are
told by their names, and each gives its capacity and, usually, its status in a file of its own.
Batteries are taken in the order of their names.
-/

namespace HostVitals

open HostVitals.Files HostVitals.Report

/-- What the names of batteries start with. -/
def batteryMark : List Char := "BAT".toList

/-- Whether an entry is that of a battery. -/
def isBatteryName (name : String) : Bool :=
  batteryMark.isPrefixOf name.toList

/-- The entries of batteries, in the order of their names. -/
def batteryEntries (entries : List (String × Node)) : List (String × Node) :=
  (entries.filter (fun entry => isBatteryName entry.1)).mergeSort
    (fun a b => decide (a.1 ≤ b.1))

/-- The text of a file in the directory at a path, unless the path of the file is too long. -/
def textAt (path : String) (directory : Node) (name : String) : Except IoCause String :=
  if longestPath < (joinPath path name).utf8ByteSize then .error (.system .nameTooLong)
  else directory.entry name >>= Node.readText

/-- The supply at an entry of the directory at a path, or why it has no capacity. -/
def supplyAt (path name : String) (node : Node) : Except IoCause Supply := do
  let place := joinPath path name
  let capacity ← textAt place node "capacity"
  return { name, capacity, status := (textAt place node "status").toOption }

/-- A supply in front of others, or a note on why an entry has none in front of other notes. -/
def consSupply (name : String) (supply : Except IoCause Supply)
    (rest : List Supply × List LogRecord) : List Supply × List LogRecord :=
  match supply with
  | .ok supply => (supply :: rest.1, rest.2)
  | .error cause => (rest.1, ⟨.debug, "Skipping " ++ name ++ ": " ++ cause.message⟩ :: rest.2)

/-- The supplies at the entries, with a note for each entry that has none. -/
def suppliesAt (path : String) : List (String × Node) → List Supply × List LogRecord
  | [] => ([], [])
  | (name, node) :: rest => consSupply name (supplyAt path name node) (suppliesAt path rest)

/-- The batteries among the power supplies in a directory, as seen from a working directory, with
notes on what could not be read. -/
def scan (root : Node) (path : String) (workingDirectory : String := "/") :
    List Supply × List LogRecord :=
  match root.find path workingDirectory >>= Node.list with
  | .ok entries => suppliesAt path (batteryEntries entries)
  | .error cause => ([], [⟨.debug, "Cannot list " ++ path ++ ": " ++ cause.message⟩])

end HostVitals
