import CatalogGraph.Json.Value

/-!
# Output types

The types that fields of the schema have: four scalars, lists, and references to object types by
name. Object types have named fields in a fixed order. One object type is known from the start, the
pair of a key and a value, which stands for every map column.
-/

namespace CatalogGraph

/-- The scalar types. -/
inductive ScalarKind where
  | boolean
  | int
  | float
  | string
deriving DecidableEq, Repr

/-- The name of a scalar type. -/
def ScalarKind.name : ScalarKind → String
  | .boolean => "Boolean"
  | .int => "Int"
  | .float => "Float"
  | .string => "String"

/-- The type of a field. -/
inductive OutputType where
  | scalar (kind : ScalarKind)
  | list (inner : OutputType)
  | object (name : String)
deriving DecidableEq, Inhabited, Repr

namespace OutputType

/-- The object type that the type refers to, below any lists. -/
def objectName? : OutputType → Option String
  | .scalar _ => none
  | .list inner => inner.objectName?
  | .object name => some name

/-- The type as it is written in a schema document. -/
def render : OutputType → String
  | .scalar kind => kind.name
  | .list inner => "[" ++ inner.render ++ "]"
  | .object name => name

/-- The type as a JSON value: its kind and what it is of. -/
def toJson : OutputType → Json
  | .scalar kind => .object [("kind", .string "Scalar"), ("of", .string kind.name)]
  | .list inner => .object [("kind", .string "List"), ("of", inner.toJson)]
  | .object name => .object [("kind", .string "Object"), ("of", .string name)]

end OutputType

/-- A field of an object type. -/
structure FieldDef where
  name : String
  type : OutputType
  description : Option String
deriving DecidableEq, Repr

/-- The field as a JSON record; a missing description is left out. -/
def FieldDef.toJson (field : FieldDef) : Json :=
  .object ([("name", .string field.name), ("ty", field.type.toJson)] ++
    match field.description with
    | some text => [("description", .string text)]
    | none => [])

/-- A named type with fields. -/
structure ObjectType where
  name : String
  fields : List FieldDef
deriving DecidableEq, Repr

/-- The object type as a JSON record. -/
def ObjectType.toJson (type : ObjectType) : Json :=
  .object [("name", .string type.name), ("fields", .array (type.fields.map FieldDef.toJson))]

/-! ## Keys with values -/

/-- The name of the object type of map entries. -/
def keyValueName : String := "KeyValue"

/-- The object type of map entries: a key and a value, both texts. -/
def keyValueType : ObjectType :=
  ⟨keyValueName, [⟨"key", .scalar .string, none⟩, ⟨"value", .scalar .string, none⟩]⟩

/-- Whether a type refers to the object type of map entries. -/
def OutputType.usesKeyValue (type : OutputType) : Bool := type.objectName? == some keyValueName

end CatalogGraph
