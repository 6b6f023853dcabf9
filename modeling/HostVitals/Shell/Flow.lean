/-!
# Flows of bytes

What a command reads or writes: bytes, after which a row of bytes may go on again and again.
-/

namespace HostVitals.Shell

/-- Bytes, and what goes on again and again after them. -/
structure Flow where
  bytes : List UInt8
  /-- What goes on again and again, empty when the flow ends. -/
  again : List UInt8
  deriving DecidableEq

namespace Flow

/-- The flow of some bytes. -/
def ofBytes (bytes : List UInt8) : Flow := ⟨bytes, []⟩

/-- The empty flow. -/
def empty : Flow := ofBytes []

/-- The flow of a text. -/
def ofText (text : String) : Flow := ofBytes text.toUTF8.toList

/-- Whether the flow never ends. -/
def endless (flow : Flow) : Bool := !flow.again.isEmpty

/-- One flow after another, unless the first never ends. -/
def append (a b : Flow) : Flow :=
  if a.endless then a else ⟨a.bytes ++ b.bytes, b.again⟩

/-- Several flows one after another. -/
def join (flows : List Flow) : Flow :=
  flows.foldl append empty

/-- As many bytes of a row as are asked for, the row going on again and again. -/
def repeated (count : Nat) (row : List UInt8) : List UInt8 :=
  ((List.replicate (count / row.length + 1) row).flatten).take count

/-- The first bytes of a flow. -/
def take (count : Nat) (flow : Flow) : List UInt8 :=
  let first := flow.bytes.take count
  if flow.endless then first ++ repeated (count - first.length) flow.again else first

/-- Each byte replaced by some bytes. -/
def flatMap (f : UInt8 → List UInt8) (flow : Flow) : Flow :=
  ⟨flow.bytes.flatMap f, flow.again.flatMap f⟩

end Flow

end HostVitals.Shell
