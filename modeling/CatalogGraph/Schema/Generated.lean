import CatalogGraph.Schema.OutputType

/-!
# Generated schemas

A generated schema has an object type and a root field for each table that is exposed. The type
and the field have the same name, the three names that lead to the table with underscores between
them.
-/

namespace CatalogGraph.Schema

/-- A table under the names by which it was discovered. -/
structure TableRef where
  catalog : String
  schema : String
  table : String
deriving DecidableEq, Repr

namespace TableRef

/-- The name of the type and of the root field of a table. -/
def typeName (t : TableRef) : String := t.catalog ++ "_" ++ t.schema ++ "_" ++ t.table

/-- The names of a table with points between them. -/
def qualified (t : TableRef) : String := t.catalog ++ "." ++ t.schema ++ "." ++ t.table

/-- The table as a JSON record. -/
def toJson (t : TableRef) : Json :=
  .object [("catalog", .string t.catalog), ("schema", .string t.schema), ("table", .string t.table)]

end TableRef

/-- An argument of a root field; its type is given as it is written in a schema document. -/
structure Argument where
  name : String
  type : String
  description : String
deriving DecidableEq, Repr

/-- The argument as a JSON record. -/
def Argument.toJson (a : Argument) : Json :=
  .object [("name", .string a.name), ("ty", .string a.type), ("description", .string a.description)]

/-- The input type of filters. -/
def filterInputName : String := "FilterInput"

/-- The type of filter operators. -/
def filterOperatorName : String := "FilterOperator"

/-- The arguments of every root field: a limit and filters. -/
def tableArguments : List Argument :=
  [⟨"limit", ScalarKind.int.name, "Limit number of rows"⟩,
   ⟨"filters", "[" ++ filterInputName ++ "]", "Filter selection"⟩]

/-- A root field, through which one table can be read. -/
structure RootField where
  name : String
  description : String
  type : OutputType
  args : List Argument
  table : TableRef
deriving DecidableEq, Repr

namespace RootField

/-- The root field of a table: a list of the object type of the table. -/
def forTable (t : TableRef) : RootField :=
  ⟨t.typeName, "Catalog: " ++ t.catalog ++ ", Schema: " ++ t.schema ++ ", Table: " ++ t.table,
    .list (.object t.typeName), tableArguments, t⟩

/-- The root field as a JSON record. -/
def toJson (f : RootField) : Json :=
  .object [("name", .string f.name), ("description", .string f.description),
    ("ty", f.type.toJson), ("args", .array (f.args.map Argument.toJson)),
    ("table", f.table.toJson)]

end RootField

/-- A schema: the catalogs that are exposed, object types in the order of their names, and the
root fields for queries and for subscriptions. -/
structure Generated where
  catalogs : List String
  objectTypes : List ObjectType
  queryFields : List RootField
  subscriptionFields : List RootField
deriving DecidableEq, Repr

namespace Generated

/-- The query field of a name. -/
def rootField? (s : Generated) (name : String) : Option RootField :=
  s.queryFields.find? fun field => field.name == name

/-- The object type of a name. -/
def objectType? (s : Generated) (name : String) : Option ObjectType :=
  s.objectTypes.find? fun type => type.name == name

/-- How many tables are exposed. -/
def tableCount (s : Generated) : Nat := s.queryFields.length

/-- The schema as a JSON record. -/
def toJson (s : Generated) : Json :=
  .object [("catalogs", Json.strings s.catalogs),
    ("object_types", .array (s.objectTypes.map ObjectType.toJson)),
    ("query_fields", .array (s.queryFields.map RootField.toJson)),
    ("subscription_fields", .array (s.subscriptionFields.map RootField.toJson))]

end Generated

end CatalogGraph.Schema
