import CatalogGraph.Dictionary
import CatalogGraph.Schema.Generated

/-!
# Registering types

The registry collects the object types of a schema with the tables that they are made of. No two
tables may have types of one name, and no table may have a type of a name that the schema itself
uses.
-/

namespace CatalogGraph.Schema

/-- The names that the schema itself uses. -/
def reservedNames : List String :=
  ["Query", "Subscription", filterInputName, filterOperatorName, keyValueName]

/-- Why no schema can be made: two owners of one type name. -/
structure Collision where
  name : String
  first : String
  second : String
deriving DecidableEq, Repr

/-- The text of a collision. -/
def Collision.message (c : Collision) : String :=
  "type name '" ++ c.name ++ "' is produced by both " ++ c.first ++ " and " ++ c.second

/-- The owner of the names that the schema itself uses. -/
def builtinOwner : String := "a built-in type"

/-- The object types registered so far with their tables, by type name. -/
abbrev Registry := Dictionary (TableRef × ObjectType)

namespace Registry

/-- The registry with the object type of a table. -/
def register (r : Registry) (table : TableRef) (type : ObjectType) : Except Collision Registry :=
  if reservedNames.contains type.name then
    .error ⟨type.name, builtinOwner, table.qualified⟩
  else
    match Dictionary.find? r type.name with
    | some (first, _) => .error ⟨type.name, first.qualified, table.qualified⟩
    | none => .ok (Dictionary.insert r type.name (table, type))

/-- The object types of the tables, in the order of their names. -/
def types (r : Registry) : List ObjectType := (Dictionary.values r).map Prod.snd

/-- The root fields of the tables, in the order of their names. -/
def fields (r : Registry) : List RootField :=
  (Dictionary.values r).map fun entry => RootField.forTable entry.1

/-- Whether a field of a registered type holds map entries. -/
def needsKeyValue (r : Registry) : Bool :=
  r.types.any fun type => type.fields.any fun field => field.type.usesKeyValue

/-- The object type put before the first one with a greater name. -/
def place (type : ObjectType) : List ObjectType → List ObjectType
  | [] => [type]
  | other :: rest =>
    if type.name < other.name then type :: other :: rest else other :: place type rest

/-- The schema of the registered types. -/
def schema (r : Registry) (catalogs : List String) : Generated :=
  let types := if r.needsKeyValue then place keyValueType r.types else r.types
  ⟨catalogs, types, r.fields, r.fields⟩

end Registry

end CatalogGraph.Schema
