import CatalogGraph.Json.Codec

/-!
# Columns and rows

A column description is what the engine says about a column of a table. A column is a description
together with the names that lead to it. Columns are ordered by these names, then by their type.
-/

namespace CatalogGraph

open Json

/-- A row of a result: values by column name. -/
abbrev Row := Dictionary Json

/-- A column as the engine describes it. -/
structure ColumnDescription where
  name : String
  nativeType : String
deriving DecidableEq, Repr

namespace ColumnDescription

/-- The description as a JSON record. -/
def toJson (c : ColumnDescription) : Json :=
  .object [("name", .string c.name), ("type", .string c.nativeType)]

/-- A description as a JSON record; the type may be given under either of two names. -/
def recordType : RecordType ColumnDescription where
  title := "struct ColumnDescription"
  slots :=
    [.of "name" true Decoder.string fun v c => { c with name := v },
     (Slot.of "type" true Decoder.string fun v c => { c with nativeType := v }).alsoNamed
       "native_type"]
  blank := ⟨"", ""⟩

end ColumnDescription

/-- A column under the names that lead to it. -/
structure Column where
  catalog : String
  schema : String
  table : String
  name : String
  nativeType : String
deriving DecidableEq, Repr

namespace Column

/-- The names of the table of a column, with points between them. -/
def tableName (c : Column) : String := c.catalog ++ "." ++ c.schema ++ "." ++ c.table

/-- The names of a column, with points between them. -/
def qualifiedName (c : Column) : String := c.tableName ++ "." ++ c.name

/-- A column with its type, as it is shown. -/
def text (c : Column) : String := c.qualifiedName ++ " (" ++ c.nativeType ++ ")"

/-- What columns are compared by. -/
def orderKey (c : Column) : List String := [c.catalog, c.schema, c.table, c.name, c.nativeType]

/-- Two columns of one table. -/
def sameTable (a b : Column) : Bool :=
  a.catalog == b.catalog && a.schema == b.schema && a.table == b.table

/-- The column as a JSON record. -/
def toJson (c : Column) : Json :=
  .object [("catalog", .string c.catalog), ("schema", .string c.schema),
    ("table", .string c.table), ("column", .string c.name), ("native_type", .string c.nativeType)]

/-- A column as a JSON record. -/
def recordType : RecordType Column where
  title := "struct ColumnMetadata"
  slots :=
    [.of "catalog" true Decoder.string fun v c => { c with catalog := v },
     .of "schema" true Decoder.string fun v c => { c with schema := v },
     .of "table" true Decoder.string fun v c => { c with table := v },
     .of "column" true Decoder.string fun v c => { c with name := v },
     .of "native_type" true Decoder.string fun v c => { c with nativeType := v }]
  blank := ⟨"", "", "", "", ""⟩

/-- Columns as they are kept. -/
def codec : Codec Column := ⟨toJson, recordType.decode⟩

end Column

end CatalogGraph
