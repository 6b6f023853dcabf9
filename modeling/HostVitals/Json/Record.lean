import HostVitals.Json.Value

/-!
# Records in JSON

A record is written as an object whose members are its fields, and read from such an object, with
the members in any order and among others, or from a list of the field values in order.  What a
field takes when its value is missing is for the field to say.
-/

namespace HostVitals.Json

open HostVitals.Number

/-! ## The values of the fields -/

/-- What a record holds for one of its fields. -/
inductive Slot where
  | given (value : Value)
  | missingMember
  /-- The list ends before the field. -/
  | missingItem

/-- The values of the members with a name. -/
def valuesOf (name : String) (members : List (Option String × Value)) : List Value :=
  (members.filter (fun member => member.1 == some name)).map Prod.snd

/-- What an object holds for a field, unless it holds the field twice. -/
def slotOf (members : List (Option String × Value)) (name : String) : Option Slot :=
  match valuesOf name members with
  | [] => some .missingMember
  | [value] => some (.given value)
  | _ => none

/-- What a value holds for each field of a record. -/
def slots (names : List String) : Value → Option (List Slot)
  | .object members =>
    if members.all (fun member => member.1.isSome) then names.mapM (slotOf members) else none
  | .array items =>
    if items.length ≤ names.length then
      some (items.map .given ++ List.replicate (names.length - items.length) .missingItem)
    else none
  | _ => none

/-! ## Reading a field -/

/-- A field that has to be given. -/
def Slot.required {α : Type} (read : Value → Option α) : Slot → Option α
  | .given value => read value
  | _ => none

/-- A field that may be `null`, and that an object may leave out. -/
def Slot.optional {α : Type} (read : Value → Option α) : Slot → Option (Option α)
  | .given .null => some none
  | .given value => (read value).map some
  | .missingMember => some none
  | .missingItem => none

/-- A field that takes a standard value when it is left out. -/
def Slot.defaulted {α : Type} (standard : α) (read : Value → Option α) : Slot → Option α
  | .given value => read value
  | _ => some standard

/-! ## Reading plain values -/

/-- A text. -/
def Value.toText? : Value → Option String
  | .text t => t
  | _ => none

/-- A number of binary64. -/
def Value.toBinary64? : Value → Option Binary64
  | .number n => n.toBinary64?
  | _ => none

/-- A whole number from zero to `greatest`. -/
def Value.toNat? (greatest : Nat) : Value → Option Nat
  | .number n => n.toNat?.filter (fun m => decide (m ≤ greatest))
  | _ => none

/-- A count of 32 bits. -/
def Value.toUInt32? (value : Value) : Option UInt32 :=
  (value.toNat? 0xffffffff).map UInt32.ofNat

/-- A count of 64 bits. -/
def Value.toUInt64? (value : Value) : Option UInt64 :=
  (value.toNat? 0xffffffffffffffff).map UInt64.ofNat

/-- A list of values of one kind. -/
def Value.toList? {α : Type} (read : Value → Option α) : Value → Option (List α)
  | .array items => items.mapM read
  | _ => none

/-- One of several names, given as a text or as an object that has it as its only member, whose
value is `null`. -/
def Value.toName? {α : Type} (names : List (String × α)) : Value → Option α
  | .text (some t) => names.lookup t
  | .object [(some t, .null)] => names.lookup t
  | _ => none

/-! ## Writing plain values -/

/-- The member of a record with a field's name. -/
def member (name : String) (value : Value) : Option String × Value :=
  (some name, value)

/-- A text. -/
def Value.ofText (text : String) : Value :=
  .text (some text)

/-- A text, or `null`. -/
def Value.ofOptionalText (text : Option String) : Value :=
  (text.map Value.ofText).getD .null

/-- A whole number. -/
def Value.ofNat (n : Nat) : Value :=
  .number (.ofNat n)

/-- A number of binary64, or `null` when it is not finite. -/
def Value.ofBinary64 (x : Binary64) : Value :=
  ((Numeral.ofBinary64? x).map .number).getD .null

end HostVitals.Json
