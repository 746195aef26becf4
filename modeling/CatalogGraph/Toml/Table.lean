import CatalogGraph.Json.Text
import CatalogGraph.Toml.Scalar

/-!
# Values and tables of TOML documents

A document is a table. Tables come about in several ways, and how a table came about decides what
may be added to it later.

* A header makes a table. The tables on the way to it exist from then on and may still be made by
  a header of their own.
* A key of several parts makes tables on its way. Such tables take further keys of several parts,
  but no header makes them again, and a table made by a header takes no such keys from outside.
* A table written between braces is complete.
* A header between double brackets adds a table to a list; whatever follows goes to the last one.
-/

namespace CatalogGraph.Toml

/-- How a table came about. -/
inductive Origin where
  /-- By a header. -/
  | header
  /-- On the way to a table with a header. -/
  | way
  /-- By a key of several parts. -/
  | dotted
  /-- Between braces. -/
  | braces
deriving DecidableEq, Repr

/-- A value of a document. -/
inductive Value where
  | string (s : String)
  | scalar (s : Scalar)
  | array (items : List Value)
  | tables (items : List (List (String × Value)))
  | table (origin : Origin) (members : List (String × Value))

/-- The members of a table in the order in which they were added. -/
abbrev Members := List (String × Value)

namespace Members

/-- The member under a key. -/
def find? (members : Members) (key : String) : Option Value :=
  (List.find? (fun entry => entry.1 == key) members).map Prod.snd

/-- The members with a value under a key, in the place of the old value if there is one. -/
def put (members : Members) (key : String) (value : Value) : Members :=
  match members with
  | [] => [(key, value)]
  | (k, v) :: rest => if k = key then (key, value) :: rest else (k, v) :: put rest key value

/-! ## Adding to tables -/

/-- The members changed at the end of the way to a header. Tables on the way are made where they
are missing; of a list of tables the last one is entered. -/
def enter? (change : Members → Option Members) : List String → Members → Option Members
  | [], members => change members
  | key :: way, members =>
    match find? members key with
    | none => (enter? change way []).map fun inner => put members key (.table .way inner)
    | some (.table origin inner) =>
      if origin = .braces then none
      else (enter? change way inner).map fun inner => put members key (.table origin inner)
    | some (.tables items) =>
      match items.getLast? with
      | none => none
      | some last =>
        (enter? change way last).map fun last =>
          put members key (.tables (items.dropLast ++ [last]))
    | some _ => none

/-- The table that a header makes. -/
def makeTable? (key : String) (members : Members) : Option Members :=
  match find? members key with
  | none => some (put members key (.table .header []))
  | some (.table .way inner) => some (put members key (.table .header inner))
  | some _ => none

/-- The table that a header between double brackets adds to a list. -/
def addTable? (key : String) (members : Members) : Option Members :=
  match find? members key with
  | none => some (put members key (.tables [[]]))
  | some (.tables items) => some (put members key (.tables (items ++ [[]])))
  | some _ => none

/-- The members with a value under a key of the given parts, seen from a table whose origin is
`origin`; `first` tells whether no part has been passed yet. -/
def assign? (first : Bool) (origin : Origin) (value : Value) :
    List String → Members → Option Members
  | [], _ => none
  | [key], members =>
    if first || origin = .dotted then
      match find? members key with
      | none => some (put members key value)
      | some _ => none
    else none
  | key :: way, members =>
    match find? members key with
    | none =>
      (assign? false .dotted value way []).map fun inner => put members key (.table .dotted inner)
    | some (.table inside inner) =>
      if inside = .way ∨ inside = .dotted then
        (assign? false inside value way inner).map fun inner =>
          put members key (.table inside inner)
      else none
    | some (.tables items) =>
      match items.getLast? with
      | none => none
      | some last =>
        (assign? false .header value way last).map fun last =>
          put members key (.tables (items.dropLast ++ [last]))
    | some _ => none

end Members

/-! ## JSON values -/

/-- The name under which a date stands as the only member of a record. -/
def datetimeKey : String := "$__toml_private_datetime"

/-- The scalar as a JSON value. No setting is a fraction, so the value of one is not kept: it is
only ever refused or passed over. -/
def Scalar.toJson : Scalar → Json
  | .boolean b => .bool b
  | .integer n => .int n
  | .float => .float (Double.zero false)
  | .datetime text => .object [(datetimeKey, .string text)]

mutual

/-- The value as a JSON value of which a shape is expected. An array that stands for a record may
be longer than the record. -/
def Value.toJson (shape : Json.Draft.Shape) : Value → Json
  | .string s => .string s
  | .scalar s => s.toJson
  | .array items => .array (itemsJson shape 0 items)
  | .tables items => .array (tablesJson shape 0 items)
  | .table _ members => .object (membersJson shape members)

/-- The items from the `i`-th on; those beyond the end of a record are dropped. -/
def itemsJson (shape : Json.Draft.Shape) (i : Nat) : List Value → List Json
  | [] => []
  | item :: rest =>
    match shape.item? i with
    | none => []
    | some inner => item.toJson inner :: itemsJson shape (i + 1) rest

/-- The tables of a list from the `i`-th on. -/
def tablesJson (shape : Json.Draft.Shape) (i : Nat) : List (List (String × Value)) → List Json
  | [] => []
  | members :: rest =>
    match shape.item? i with
    | none => []
    | some inner => .object (membersJson inner members) :: tablesJson shape (i + 1) rest

/-- The members of a table. -/
def membersJson (shape : Json.Draft.Shape) : List (String × Value) → List (String × Json)
  | [] => []
  | (key, v) :: rest => (key, v.toJson ((shape.member? key).getD .any)) :: membersJson shape rest

end

end CatalogGraph.Toml
