import CatalogGraph.Json.Printer
import CatalogGraph.Json.Text
import CatalogGraph.Number.Interval
import CatalogGraph.Text.Quoted

/-!
# Typed values from JSON values

A decoder makes a typed value of a JSON value or says why it cannot. Records are decoded from
objects, whose unknown members are passed over, or from arrays that hold the fields in their order.

The first fault that is met decides. In an object the members are looked at in their order, and a
field that is missing is found only after that; in an array the fields are looked at in theirs.
-/

namespace CatalogGraph.Json

open Text

/-! ## Faults -/

/-- Why a value has not the expected type. -/
inductive Fault where
  /-- The value is of another kind. -/
  | kind (found expected : String)
  /-- The value is of the right kind but out of range. -/
  | range (found expected : String)
  /-- The array has the wrong number of items. -/
  | length (found : Nat) (expected : String)
  /-- A field without a default is missing. -/
  | missing (field : String)
  /-- A field is given twice. -/
  | repeated (field : String)
  /-- A name is none of those that are allowed. -/
  | choice (found : String) (allowed : List String)
deriving Repr, DecidableEq

namespace Fault

/-- A name between the marks that diagnostics put around code. -/
def marked (s : String) : String := "\x60" ++ s ++ "\x60"

/-- The names that are allowed, as a diagnostic lists them. -/
def alternatives : List String → String
  | [] => "there are no variants"
  | [a] => "expected " ++ marked a
  | [a, b] => "expected " ++ marked a ++ " or " ++ marked b
  | many => "expected one of " ++ String.intercalate ", " (many.map marked)

/-- The text of a fault. -/
def message : Fault → String
  | .kind found expected => "invalid type: " ++ found ++ ", expected " ++ expected
  | .range found expected => "invalid value: " ++ found ++ ", expected " ++ expected
  | .length found expected => "invalid length " ++ decimal found ++ ", expected " ++ expected
  | .missing field => "missing field " ++ marked field
  | .repeated field => "duplicate field " ++ marked field
  | .choice found allowed => "unknown variant " ++ marked found ++ ", " ++ alternatives allowed

end Fault

/-- How a fault calls the value that it found. -/
def describe : Json → String
  | .null => "null"
  | .bool b => "boolean " ++ Fault.marked (if b then "true" else "false")
  | .int n => "integer " ++ Fault.marked (signedDecimal n)
  | .float x => "floating point " ++ Fault.marked x.json
  | .string s => "string " ++ Text.quoted s
  | .array _ => "sequence"
  | .object _ => "map"

/-- Makes a typed value of a JSON value. -/
abbrev Decoder (α : Type) := Json → Except Fault α

namespace Decoder

variable {α β : Type}

/-! ## Simple values -/

/-- Any value. -/
def any : Decoder Json := Except.ok

/-- A text. -/
def string : Decoder String
  | .string s => .ok s
  | j => .error (.kind j.describe "a string")

/-- A truth value. -/
def bool : Decoder Bool
  | .bool b => .ok b
  | j => .error (.kind j.describe "a boolean")

/-- A whole number in an interval. -/
def int (name : String) (i : Interval) : Decoder Int
  | .int n => if i.holds n then .ok n else .error (.range (describe (.int n)) name)
  | j => .error (.kind j.describe name)

/-- A signed number of sixty-four bits. -/
def int64 : Decoder Int := int "i64" (.signed 64)

/-- A natural number of sixty-four bits. -/
def nat64 : Decoder Nat := fun j => (int "u64" (.unsigned 64) j).map Int.toNat

/-- A natural number of thirty-two bits. -/
def nat32 : Decoder Nat := fun j => (int "u32" (.unsigned 32) j).map Int.toNat

/-- A double, also from a whole number. -/
def double : Decoder Double
  | .float x => .ok x
  | .int n => .ok ((Double.ofNat n.natAbs).withSign (n < 0))
  | j => .error (.kind j.describe "f64")

/-- A value or null. -/
def optional (inner : Decoder α) : Decoder (Option α)
  | .null => .ok none
  | j => (inner j).map some

/-- An array of values. -/
def list (inner : Decoder α) : Decoder (List α)
  | .array items => items.mapM inner
  | j => .error (.kind j.describe "a sequence")

/-- An object as a dictionary. -/
def dictionary (inner : Decoder α) : Decoder (Dictionary α)
  | .object members => do
    let entries ← members.mapM fun (key, j) => do return (key, ← inner j)
    return Dictionary.ofList entries
  | j => .error (.kind j.describe "a map")

/-- The choice that a name stands for. -/
def named (allowed : List (String × α)) (name : String) : Except Fault α :=
  match allowed.find? fun entry => entry.1 == name with
  | some entry => .ok entry.2
  | none => .error (.choice name (allowed.map Prod.fst))

/-- One of the allowed names, alone or as the only member of an object with null under it. -/
def choice (allowed : List (String × α)) : Decoder α
  | .string s => named allowed s
  | .object [(name, .null)] => named allowed name
  | .object [(name, j)] =>
    match named allowed name with
    | .ok _ => .error (.kind j.describe "unit")
    | .error e => .error e
  | .object _ => .error (.range "map" "map with a single key")
  | j => .error (.kind j.describe "string or map")

end Decoder

/-! ## Records -/

/-- A field of a record of type `α`: its name and other names, whether it must be given, the shape
of its value, and how the value is put into the record. -/
structure Slot (α : Type) where
  name : String
  others : List String
  required : Bool
  shape : Draft.Shape
  put : Json → α → Except Fault α

/-- A slot whose value is decoded before it is put. -/
def Slot.of {α β : Type} (name : String) (required : Bool) (decode : Decoder β)
    (put : β → α → α) : Slot α :=
  ⟨name, [], required, .any, fun j record => (decode j).map (put · record)⟩

/-- The slot with another name by which its field may be given. -/
def Slot.alsoNamed {α : Type} (slot : Slot α) (other : String) : Slot α :=
  ⟨slot.name, other :: slot.others, slot.required, slot.shape, slot.put⟩

/-- The slot with the shape of its value. -/
def Slot.shaped {α : Type} (slot : Slot α) (shape : Draft.Shape) : Slot α :=
  ⟨slot.name, slot.others, slot.required, shape, slot.put⟩

/-- A record of type `α`: what faults call it, its fields, and the record before any of them is
put. -/
structure RecordType (α : Type) where
  title : String
  slots : List (Slot α)
  blank : α

namespace RecordType

variable {α : Type}

/-- The shape of a record: its field names and the shapes of their values. -/
def shape (r : RecordType α) : Draft.Shape :=
  .record (r.slots.map fun slot => (slot.name :: slot.others, slot.shape))

/-- The field that a member name stands for. -/
def slot? (r : RecordType α) (key : String) : Option (Slot α) :=
  r.slots.find? fun slot => slot.name == key || slot.others.contains key

/-- Puts the members in their order; `seen` holds the names of the fields that were put. -/
def putMembers (r : RecordType α) (seen : List String) (record : α) :
    List (String × Json) → Except Fault (List String × α)
  | [] => .ok (seen, record)
  | (key, j) :: rest =>
    match r.slot? key with
    | none => r.putMembers seen record rest
    | some slot =>
      if seen.contains slot.name then .error (.repeated slot.name)
      else
        match slot.put j record with
        | .error e => .error e
        | .ok record => r.putMembers (slot.name :: seen) record rest

/-- Puts the items into the fields in their order; `i` fields have been put before. -/
def putItems (r : RecordType α) (i : Nat) (record : α) :
    List (Slot α) → List Json → Except Fault (α × List Json)
  | [], items => .ok (record, items)
  | slot :: slots, [] =>
    if slot.required then
      .error (.length i (r.title ++ " with " ++ decimal r.slots.length ++
        (if r.slots.length = 1 then " element" else " elements")))
    else r.putItems (i + 1) record slots []
  | slot :: slots, j :: items =>
    match slot.put j record with
    | .error e => .error e
    | .ok record => r.putItems (i + 1) record slots items

/-- The record that an object or an array gives. -/
def decode (r : RecordType α) : Decoder α
  | .object members =>
    match r.putMembers [] r.blank members with
    | .error e => .error e
    | .ok (seen, record) =>
      match r.slots.find? fun slot => slot.required && !seen.contains slot.name with
      | some slot => .error (.missing slot.name)
      | none => .ok record
  | .array items =>
    match r.putItems 0 r.blank r.slots items with
    | .error e => .error e
    | .ok (record, []) => .ok record
    | .ok (_, _ :: _) => .error (.length items.length "fewer elements in array")
  | j => .error (.kind j.describe r.title)

/-- The record that a text gives, if it is a text of the record. -/
def ofText? (r : RecordType α) (s : String) : Option α :=
  (Json.ofText? r.shape s).bind fun j => (r.decode j).toOption

end RecordType

end CatalogGraph.Json
