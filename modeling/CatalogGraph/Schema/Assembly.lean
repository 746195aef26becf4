import CatalogGraph.Discovery.Settings
import CatalogGraph.Discovery.Walker
import CatalogGraph.Schema.NativeType
import CatalogGraph.Schema.Registry

/-!
# Assembling schemas

A schema is assembled by one walk over everything that is exposed. Each list is taken in ascending
order without repetitions. What cannot be discovered, is excluded or has a name outside the schema
grammar is left out; only a collision of type names makes the assembly fail, at once.
-/

namespace CatalogGraph.Schema

open Discovery

/-! ## Sorted names -/

/-- The list with a name put into it, where it is not yet in it. -/
def insertName (name : String) : List String → List String
  | [] => [name]
  | other :: rest =>
    if name = other then other :: rest
    else if name < other then name :: other :: rest
    else other :: insertName name rest

/-- The names in ascending order, each once. -/
def sortNames (names : List String) : List String := names.foldr insertName []

/-! ## Events -/

/-- The kinds of names. -/
inductive NameKind where
  | catalog
  | schema
  | table
  | column
deriving DecidableEq, Repr

/-- The word for a kind of names. -/
def NameKind.text : NameKind → String
  | .catalog => "catalog"
  | .schema => "schema"
  | .table => "table"
  | .column => "column"

/-- A name outside the grammar was passed over. -/
def nameSkipped (kind : NameKind) (name : String) : Event :=
  ⟨.debug, "invalid name, skipped", [("kind", kind.text), ("name", name)]⟩

/-- A column has the name of an earlier column of its table. -/
def columnRepeated (c : Column) : Event :=
  ⟨.warn, "duplicate column name, skipped", [("column", c.qualifiedName)]⟩

/-- No column of a table could be used. -/
def tableSkipped (t : TableRef) : Event :=
  ⟨.warn, "table has no usable columns, skipped", [("table", t.qualified)]⟩

/-- A schema was assembled. -/
def schemaBuilt (s : Generated) : Event :=
  ⟨.info, "schema built",
    [("tables", Text.decimal s.tableCount), ("types", Text.decimal s.objectTypes.length)]⟩

/-! ## Types of tables -/

/-- Whether a name may be used. -/
def nameAllowed (settings : Settings) (name : String) : Bool :=
  !settings.ignoreInvalid || Name.isValid name

/-- The field of a column. -/
def fieldOf (c : Column) : FieldDef :=
  ⟨c.name, NativeType.output c.nativeType, some ("Native type: " ++ c.nativeType)⟩

/-- The fields of a table so far and what was told, with one more column. -/
def addColumn (settings : Settings) (found : List FieldDef × List Event) (c : Column) :
    List FieldDef × List Event :=
  if !nameAllowed settings c.name then (found.1, found.2 ++ [nameSkipped .column c.name])
  else if found.1.any fun field => field.name == c.name then
    (found.1, found.2 ++ [columnRepeated c])
  else (found.1 ++ [fieldOf c], found.2)

/-- The fields of a table, and what is told about columns that are left out. -/
def fieldsOf (settings : Settings) (columns : List Column) : List FieldDef × List Event :=
  columns.foldl (addColumn settings) ([], [])

/-- The object type of a table, if it has a field. -/
def tableType? (settings : Settings) (table : TableRef) (columns : List Column) :
    Option ObjectType :=
  match (fieldsOf settings columns).1 with
  | [] => none
  | fields => some ⟨table.typeName, fields⟩

/-! ## The walk -/

variable {σ : Type}

/-- Registers a table whose columns are known. -/
def addTable (settings : Settings) (table : TableRef) (columns : List Column) (r : Registry) :
    Act σ (Except Collision Registry) := do
  tellAll (fieldsOf settings columns).2
  match tableType? settings table columns with
  | some type => return r.register table type
  | none =>
    tell (tableSkipped table)
    return .ok r

/-- Registers the tables of a schema. -/
def addTables (w : Walker σ) (settings : Settings) (catalog schema : String) :
    List String → Registry → Act σ (Except Collision Registry)
  | [], r => return .ok r
  | name :: rest, r => do
    if nameAllowed settings name then
      let columns ← w.columns catalog schema name
      match ← addTable settings ⟨catalog, schema, name⟩ columns r with
      | .error e => return .error e
      | .ok r => addTables w settings catalog schema rest r
    else
      tell (nameSkipped .table name)
      addTables w settings catalog schema rest r

/-- Registers the tables of the schemas of a catalog. -/
def addSchemas (w : Walker σ) (settings : Settings) (catalog : String) :
    List String → Registry → Act σ (Except Collision Registry)
  | [], r => return .ok r
  | name :: rest, r => do
    if !settings.allowsSchema name then addSchemas w settings catalog rest r
    else if nameAllowed settings name then
      let tables ← w.tables catalog name
      match ← addTables w settings catalog name (sortNames tables) r with
      | .error e => return .error e
      | .ok r => addSchemas w settings catalog rest r
    else
      tell (nameSkipped .schema name)
      addSchemas w settings catalog rest r

/-- Registers the tables of the catalogs, and gives back which catalogs are exposed. -/
def addCatalogs (w : Walker σ) (settings : Settings) :
    List String → Registry → Act σ (Except Collision (List String × Registry))
  | [], r => return .ok ([], r)
  | name :: rest, r => do
    if !settings.allowsCatalog name then addCatalogs w settings rest r
    else if nameAllowed settings name then
      let schemas ← w.schemas name
      match ← addSchemas w settings name (sortNames schemas) r with
      | .error e => return .error e
      | .ok r =>
        return (← addCatalogs w settings rest r).map fun (visible, r) => (name :: visible, r)
    else
      tell (nameSkipped .catalog name)
      addCatalogs w settings rest r

/-- The schema of everything that is exposed. -/
def assemble (w : Walker σ) (settings : Settings) : Act σ (Except Collision Generated) := do
  let catalogs ← w.catalogs
  match ← addCatalogs w settings (sortNames catalogs) [] with
  | .error e => return .error e
  | .ok (visible, r) =>
    let schema := r.schema visible
    tell (schemaBuilt schema)
    return .ok schema

end CatalogGraph.Schema
