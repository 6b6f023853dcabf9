import HostVitals.Failure
import HostVitals.Text.Blank
import HostVitals.Text.Utf8

/-!
# A tree of files

The files of a host, as far as they matter: directories with named entries and files with bytes,
some of which can only be seen to be there.  A path is followed from the root, or from the working
directory when it does not start at the root.

Main results:

- `follow_append`: following a path in two parts is following it as a whole.
- `find_eq_walk`: a path that can be followed leads where its parts lead from the root.
- `readBytes_eq_ok_iff`, `list_eq_ok_iff`: what can be read and what can be listed.
-/

namespace HostVitals.Files

open HostVitals.Text

/-- A file or a directory. -/
inductive Node where
  /-- A file with its bytes, which may be a program to run. -/
  | file (bytes : List UInt8) (executable : Bool)
  /-- A directory with its entries, in the order in which they are listed. -/
  | directory (entries : List (String × Node))
  /-- A file that cannot be read, with the error that reading it gives. -/
  | unreadable (error : SystemError)
  /-- A directory that can neither be listed nor gone through, with the error that this gives. -/
  | locked (error : SystemError)

instance : Inhabited Node := ⟨.directory []⟩

/-- The empty directory. -/
def emptyDirectory : Node := .directory []

/-! ## Paths -/

/-- The most bytes that the name of an entry may have. -/
def longestName : Nat := 255

/-- The most bytes that a path may have as a whole. -/
def longestPath : Nat := 4095

/-- Whether a character stands between the parts of a path. -/
def isSlash (c : Char) : Bool :=
  c == '/'

/-- Whether a path starts at the root. -/
def isAbsolute (path : String) : Bool :=
  path.toList.head? = some '/'

/-- The parts of a path, also empty ones. -/
def pathParts (path : String) : List String :=
  (pieces isSlash path.toList).map String.ofList

/-- The parts of the whole way from the root.  A path that does not start at the root goes on from
the working directory. -/
def partsFrom (workingDirectory path : String) : List String :=
  if isAbsolute path then pathParts path else pathParts workingDirectory ++ pathParts path

/-- The trail from a node up to the root after one more step.  An empty part and a dot stay, two
dots go up; all need a directory to start from. -/
def step (trail : List Node) (part : String) : Except SystemError (List Node) :=
  match trail with
  | .directory entries :: above =>
    if part = "" || part = "." then .ok trail
    else if part = ".." then .ok (if above.isEmpty then trail else above)
    else if longestName < part.utf8ByteSize then .error .nameTooLong
    else
      match entries.lookup part with
      | some node => .ok (node :: trail)
      | none => .error .notFound
  | .locked error :: _ => if part = "" then .ok trail else .error error
  | _ => .error .notADirectory

/-- The trail after following the parts of a path. -/
def follow (trail : List Node) (parts : List String) : Except SystemError (List Node) :=
  parts.foldlM step trail

/-- Following a path in two parts is following it as a whole. -/
theorem follow_append (trail : List Node) (as bs : List String) :
    follow trail (as ++ bs) = (follow trail as).bind (fun trail => follow trail bs) := by
  simp only [follow, List.foldlM_append]
  rfl

/-- The cause of a path that holds a zero character. -/
def zeroInPath : IoCause := .words "file name contained an unexpected NUL byte"

/-- The node that the parts of a path lead to from the root. -/
def Node.walk (root : Node) (parts : List String) : Except IoCause Node :=
  match follow [root] parts with
  | .ok (node :: _) => .ok node
  | .ok [] => .error (.system .notFound)
  | .error error => .error (.system error)

/-- The node at a path, where `root` is the root of all files.  The working directory is given by
its own path from the root. -/
def Node.find (root : Node) (path : String) (workingDirectory : String := "/") :
    Except IoCause Node :=
  if path.toList.contains '\x00' then .error zeroInPath
  else if path.isEmpty then .error (.system .notFound)
  else if longestPath < path.utf8ByteSize then .error (.system .nameTooLong)
  else root.walk (partsFrom workingDirectory path)

/-- A path can be followed: it names something, and has neither a zero character nor too many
bytes. -/
structure Followable (path : String) : Prop where
  noZero : path.toList.contains '\x00' = false
  nonempty : path.isEmpty = false
  short : path.utf8ByteSize ≤ longestPath

/-- A path that can be followed leads where its parts lead from the root. -/
theorem find_eq_walk {path : String} (h : Followable path) (root : Node)
    (workingDirectory : String) :
    root.find path workingDirectory = root.walk (partsFrom workingDirectory path) := by
  simp only [Node.find, h.noZero, h.nonempty, Nat.not_lt.2 h.short, Bool.false_eq_true, if_false]

/-- Whether there is anything at a path. -/
def Node.exists (root : Node) (path : String) : Bool :=
  (root.find path).isOk

/-- A path with a further part. -/
def joinPath (path part : String) : String :=
  if isAbsolute part then part
  else if path.toList.getLast? = some '/' || path.isEmpty then path ++ part
  else path ++ "/" ++ part

/-! ## Reading -/

/-- The bytes of a file. -/
def Node.readBytes : Node → Except IoCause (List UInt8)
  | .file bytes _ => .ok bytes
  | .directory _ => .error (.system .isADirectory)
  | .unreadable error => .error (.system error)
  | .locked error => .error (.system error)

/-- There are bytes to read in files only. -/
theorem readBytes_eq_ok_iff {node : Node} {bytes : List UInt8} :
    node.readBytes = .ok bytes ↔ ∃ executable, node = .file bytes executable := by
  cases node <;> simp [Node.readBytes]

/-- The text of a file. -/
def Node.readText (node : Node) : Except IoCause String := do
  match Utf8.decode (← node.readBytes) with
  | some cs => return String.ofList cs
  | none => .error .notText

/-- The entries of a directory. -/
def Node.list : Node → Except IoCause (List (String × Node))
  | .directory entries => .ok entries
  | .locked error => .error (.system error)
  | _ => .error (.system .notADirectory)

/-- There are entries to list in directories only. -/
theorem list_eq_ok_iff {node : Node} {entries : List (String × Node)} :
    node.list = .ok entries ↔ node = .directory entries := by
  cases node <;> simp [Node.list]

/-- The entry of a directory with a name. -/
def Node.entry (node : Node) (name : String) : Except IoCause Node := do
  match (← node.list).lookup name with
  | some child => return child
  | none => .error (.system .notFound)

/-! ## Changes -/

/-- The entries with the one of a name replaced, or added at the end. -/
def setEntry (name : String) (node : Node) : List (String × Node) → List (String × Node)
  | [] => [(name, node)]
  | entry :: rest =>
    if entry.1 = name then (name, node) :: rest else entry :: setEntry name node rest

/-- The entries of a directory.  What is no directory is taken for an empty one. -/
def entriesIn : Option Node → List (String × Node)
  | some (.directory entries) => entries
  | _ => []

/-- What is at a path below `node` after a change there.  Directories on the way are made. -/
def alter (change : Option Node → Option Node) : List String → Option Node → Option Node
  | [], node => change node
  | name :: rest, node =>
    let entries := entriesIn node
    match alter change rest (entries.lookup name) with
    | some child => some (.directory (setEntry name child entries))
    | none => node.map (fun _ => .directory (entries.filter (fun entry => entry.1 ≠ name)))

/-- A change to the files. -/
inductive Change where
  | write (path : String) (bytes : List UInt8)
  /-- A directory is made, unless it is there. -/
  | makeDirectory (path : String)
  /-- A file or a directory with all its entries is removed. -/
  | remove (path : String)
  /-- A file becomes a program to run. -/
  | makeExecutable (path : String)

/-- The directory, or an empty one in place of nothing. -/
def orEmptyDirectory : Option Node → Option Node
  | some (.directory entries) => some (.directory entries)
  | _ => some emptyDirectory

/-- The file as a program to run. -/
def asProgram : Option Node → Option Node
  | some (.file bytes _) => some (.file bytes true)
  | node => node

/-- The path of a change. -/
def Change.path : Change → String
  | .write path _ => path
  | .makeDirectory path => path
  | .remove path => path
  | .makeExecutable path => path

/-- What a change does at its path. -/
def Change.effect : Change → Option Node → Option Node
  | .write _ bytes, _ => some (.file bytes false)
  | .makeDirectory _, node => orEmptyDirectory node
  | .remove _, _ => none
  | .makeExecutable _, node => asProgram node

/-- The files after a change. -/
def Node.apply (root : Node) (change : Change) : Node :=
  let parts := (pathParts change.path).filter (fun part => !part.isEmpty)
  (alter change.effect parts (some root)).getD emptyDirectory

end HostVitals.Files
