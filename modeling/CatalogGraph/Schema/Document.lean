import CatalogGraph.Query.Operator
import CatalogGraph.Schema.Generated

/-!
# Schema documents

The text of a schema in the schema definition language: the two root types, the types of filters,
an object type for each table, and the root fields. A description stands on its own line before
what it describes.
-/

namespace CatalogGraph.Schema

/-! ## Lines -/

/-- A character of a description as it is written between quotes. -/
def escapeDescription (c : Char) : List Char :=
  if c = '"' then ['\\', '"']
  else if c = '\\' then ['\\', '\\']
  else if c = '\n' then ['\\', 'n']
  else [c]

/-- A description between quotes, indented, on its own line. -/
def descriptionLine (text : String) : String :=
  "  \"" ++ String.ofList (text.toList.flatMap escapeDescription) ++ "\"\n"

/-- A member of a block on its own line. -/
def memberLine (text : String) : String := "  " ++ text ++ "\n"

/-- A block of lines under a heading. -/
def block (heading : String) (lines : List String) : String :=
  heading ++ " \x7b\n" ++ String.join lines ++ "\x7d\n"

/-! ## Fixed parts -/

/-- The root types. -/
def rootsBlock : String :=
  block "schema" [memberLine "query: Query", memberLine "subscription: Subscription"]

/-- The type of filter operators. -/
def operatorBlock : String :=
  "\"SQL-compatible filter operations\"\n" ++
    block ("enum " ++ filterOperatorName)
      (Query.Operator.all.flatMap fun op =>
        [descriptionLine op.description, memberLine op.schemaName])

/-- The type of filters. -/
def filterBlock : String :=
  block ("input " ++ filterInputName)
    [descriptionLine "Column name", memberLine "field: String!",
     descriptionLine "Filter operation", memberLine ("operator: " ++ filterOperatorName ++ "!"),
     memberLine "stringValue: String", memberLine "intValue: Int", memberLine "floatValue: Float",
     memberLine "booleanValue: Boolean",
     descriptionLine "ISO 8601 date", memberLine "dateValue: String",
     descriptionLine "List of values for IN, BETWEEN, etc.", memberLine "values: [String]"]

/-- Everything before the object types; it is the same for all schemas. -/
def documentHead : String := rootsBlock ++ "\n" ++ operatorBlock ++ "\n" ++ filterBlock

/-! ## Types and fields -/

/-- The lines of a field of an object type. -/
def fieldLines (field : FieldDef) : List String :=
  (field.description.map descriptionLine).toList ++
    [memberLine (field.name ++ ": " ++ field.type.render)]

/-- The block of an object type. -/
def objectBlock (type : ObjectType) : String :=
  block ("type " ++ type.name) (type.fields.flatMap fieldLines)

/-- The lines of a root field. -/
def rootFieldLines (field : RootField) : List String :=
  let args := field.args.map fun a => a.name ++ ": " ++ a.type
  [descriptionLine field.description,
   memberLine (field.name ++ "(" ++ String.intercalate ", " args ++ "): " ++ field.type.render)]

/-- The block of the query type; it always has the list of catalogs. -/
def queryBlock (fields : List RootField) : String :=
  block "type Query"
    ([descriptionLine "Catalogs available for querying", memberLine "catalogs: [String]"] ++
      fields.flatMap rootFieldLines)

/-- The block of the subscription type. -/
def subscriptionBlock (fields : List RootField) : String :=
  block "type Subscription" (fields.flatMap rootFieldLines)

/-- The document after its fixed part. -/
def documentTail (s : Generated) : String :=
  String.join (s.objectTypes.map fun type => "\n" ++ objectBlock type) ++
    "\n" ++ queryBlock s.queryFields ++ "\n" ++ subscriptionBlock s.subscriptionFields

/-- The document of a schema. -/
def document (s : Generated) : String := documentHead ++ documentTail s

end CatalogGraph.Schema
