import HostVitals.Files.Tree

/-!
# Finding programs

A program is named by a path or by a bare name, which is looked for in the directories of programs
one after another.
-/

namespace HostVitals.Files

/-- The directories of programs. -/
def programDirectories : List String :=
  ["/usr/local/sbin", "/usr/local/bin", "/usr/sbin", "/usr/bin", "/sbin", "/bin"]

/-- Whether a path leads to a file that may be run. -/
def Node.isProgram (root : Node) (path : String) (workingDirectory : String := "/") : Bool :=
  match root.find path workingDirectory with
  | .ok (.file _ executable) => executable
  | _ => false

/-- The number of parts that a path names. -/
def namedParts (path : String) : Nat :=
  let parts := pathParts path
  let rooted := if isAbsolute path then 1 else 0
  rooted + (parts.filter (fun part => !part.isEmpty)).length

/-- Whether a program is found, looking in the given directories for a bare name. -/
def Node.programOn (root : Node) (directories : List String) (name : String)
    (workingDirectory : String := "/") : Bool :=
  if name.isEmpty then false
  else if 1 < namedParts name then root.isProgram name workingDirectory
  else directories.any (fun directory => root.isProgram (joinPath directory name) workingDirectory)

/-! ## Starting a program -/

/-- Why the file at a path cannot be run, when it cannot. -/
def Node.startError (root : Node) (path : String) (workingDirectory : String := "/") :
    Option IoCause :=
  match root.find path workingDirectory with
  | .error cause => some cause
  | .ok (.file _ true) => none
  | .ok _ => some (.system .permissionDenied)

/-- Whether a text holds a slash. -/
def hasSlash (text : String) : Bool :=
  text.toList.any isSlash

/-- The file that is run for a name, or why there is none. -/
def Node.program (root : Node) (name : String) (workingDirectory : String := "/") :
    Except IoCause String :=
  if hasSlash name then
    match root.startError name workingDirectory with
    | none => .ok name
    | some cause => .error cause
  else if name.isEmpty then .error (.system .notFound)
  else if longestName < name.utf8ByteSize then .error (.system .nameTooLong)
  else
    match (programDirectories.map (joinPath · name)).find? (fun path => root.isProgram path) with
    | some path => .ok path
    | none =>
      if programDirectories.any (fun directory => root.exists (joinPath directory name)) then
        .error (.system .permissionDenied)
      else .error (.system .notFound)

/-- The programs that every host has. -/
def usualPrograms : List String :=
  ["sh", "dash", "echo", "printf", "true", "false", "cat", "head", "tail", "tr", "wc", "sleep",
   "seq", "yes", "test", "[", "kill"]

/-- A directory with the usual programs. -/
def usualBin : Node :=
  .directory (usualPrograms.map (fun name => (name, .file [] true)))

/-- The files that every host has: programs, and no power supplies. -/
def usualRoot : Node :=
  .directory [("bin", usualBin), ("usr", .directory [("bin", usualBin)]), ("etc", emptyDirectory),
    ("root", emptyDirectory), ("tmp", emptyDirectory),
    ("dev", .directory [("null", .file [] false)])]

end HostVitals.Files
