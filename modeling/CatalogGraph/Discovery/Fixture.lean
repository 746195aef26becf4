import CatalogGraph.Discovery.Source

/-!
# Fixed catalog trees

A fixture is a source that answers from a fixed tree of catalogs, schemas, tables and columns. It
never changes. Some of its catalogs may be out of order: every request that touches one of them
fails. All queries have the same rows.
-/

namespace CatalogGraph.Discovery

open Json

/-- The tables of a schema with their columns. -/
abbrev TableTree := Dictionary (List ColumnDescription)

/-- The schemas of a catalog. -/
abbrev SchemaTree := Dictionary TableTree

/-- The catalogs of an engine. -/
abbrev CatalogTree := Dictionary SchemaTree

/-- A fixed tree, the catalogs that fail, and the rows of every query. -/
structure Fixture where
  tree : CatalogTree
  failing : List String
  rows : List Row

namespace Fixture

/-- The fixture without catalogs. -/
def empty : Fixture := ⟨[], [], []⟩

/-! ## Making fixtures -/

/-- The shape of a tree as a JSON text. -/
def treeShape : Draft.Shape :=
  .dictionary (.dictionary (.dictionary (.list ColumnDescription.recordType.shape)))

/-- A tree as nested JSON objects with lists of column descriptions in them. -/
def decodeTree : Decoder CatalogTree :=
  Decoder.dictionary (Decoder.dictionary (Decoder.dictionary
    (Decoder.list ColumnDescription.recordType.decode)))

/-- The fixture with the tree that a JSON text gives. -/
def ofText? (s : String) : Option Fixture :=
  match Json.ofText? treeShape s with
  | none => none
  | some j =>
    match decodeTree j with
    | .ok tree => some ⟨tree, [], []⟩
    | .error _ => none

/-- The fixture with a table; its catalog and schema are made where they are missing. -/
def withTable (f : Fixture) (catalog schema table : String) (columns : List ColumnDescription) :
    Fixture :=
  let tree := Dictionary.alter f.tree catalog fun schemas =>
    Dictionary.alter (schemas.getD []) schema fun tables =>
      Dictionary.insert (tables.getD []) table columns
  ⟨tree, f.failing, f.rows⟩

/-- The fixture with a schema, which is empty where it is new. -/
def withSchema (f : Fixture) (catalog schema : String) : Fixture :=
  let tree := Dictionary.alter f.tree catalog fun schemas =>
    Dictionary.alter (schemas.getD []) schema fun tables => tables.getD []
  ⟨tree, f.failing, f.rows⟩

/-- The fixture in which every request that touches a catalog fails. -/
def withFailing (f : Fixture) (catalog : String) : Fixture :=
  let tree := Dictionary.alter f.tree catalog fun schemas => schemas.getD []
  ⟨tree, catalog :: f.failing, f.rows⟩

/-- The fixture whose queries have the given rows. -/
def withRows (f : Fixture) (rows : List Row) : Fixture := ⟨f.tree, f.failing, rows⟩

/-! ## Answers -/

/-- The schemas of a catalog. -/
def catalog (f : Fixture) (name : String) : Answer SchemaTree :=
  if f.failing.contains name then
    .error (.unavailable ("catalog '" ++ name ++ "' is unavailable"))
  else
    match Dictionary.find? f.tree name with
    | some schemas => .ok schemas
    | none => .error (.notFound name)

/-- The tables of a schema. -/
def schema (f : Fixture) (catalog schema : String) : Answer TableTree :=
  match f.catalog catalog with
  | .error e => .error e
  | .ok schemas =>
    match Dictionary.find? schemas schema with
    | some tables => .ok tables
    | none => .error (.notFound (catalog ++ "." ++ schema))

/-- The columns of a table. -/
def table (f : Fixture) (catalog schema table : String) : Answer (List ColumnDescription) :=
  match f.schema catalog schema with
  | .error e => .error e
  | .ok tables =>
    match Dictionary.find? tables table with
    | some columns => .ok columns
    | none => .error (.notFound (catalog ++ "." ++ schema ++ "." ++ table))

/-- The fixture as a source. Its state is the fixture itself. -/
def source : Source Fixture where
  catalogs f := (.ok (Dictionary.keys f.tree), f)
  schemas catalog f := ((f.catalog catalog).map Dictionary.keys, f)
  tables catalog schema f := ((f.schema catalog schema).map Dictionary.keys, f)
  columns catalog schema table f := (f.table catalog schema table, f)
  together := none
  rows _ f := (.ok f.rows, f)

end Fixture

end CatalogGraph.Discovery
