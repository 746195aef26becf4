import CatalogGraph.Discovery.Session
import CatalogGraph.Name

/-!
# Walking the catalogs

The walker finds catalogs, schemas, tables and columns. Each list is looked for in the cache first
and asked of the source otherwise; what the source answers is written into the cache. A request that
fails is told and counts as the empty list.

Names that the walker hands out are rewritten to fit the schema grammar if this is wanted. Names
that are handed to it are restored before they reach the source.
-/

namespace CatalogGraph.Discovery

open Json

/-- How a walker works. -/
structure Options where
  /-- Rewrite the names that are handed out. -/
  replaceInvalid : Bool
  /-- Read from the cache; it is written in any case. -/
  useCache : Bool
deriving DecidableEq, Repr

/-- A walker over a source. -/
structure Walker (σ : Type) where
  source : Source σ
  options : Options

/-! ## Events -/

/-- A list was found in the cache. -/
def cacheHit (path : Cache.Path) : Event := ⟨.debug, "cache hit", [("path", path.key)]⟩

/-- An entry of the cache could not be read. -/
def unreadableEntry (path : Cache.Path) : Event :=
  ⟨.warn, "unreadable cache entry", [("path", path.key)]⟩

/-- The source is asked; the request is told as a statement. -/
def asking (statement : String) : Event := ⟨.info, statement, []⟩

/-- The source did not answer. -/
def askingFailed (statement : String) (e : SourceError) : Event :=
  ⟨.warn, statement ++ " failed", [("error", e.message)]⟩

namespace Walker

variable {σ α : Type}

/-! ## One list -/

/-- A name as it is handed out. -/
def spell (w : Walker σ) (name : String) : String :=
  if w.options.replaceInvalid then Name.sanitize name else name

/-- The list in the cache, if it is to be read and can be. -/
def fromCache (w : Walker σ) (codec : Codec α) (path : Cache.Path) :
    Act σ (Option (List α)) := fun s =>
  if w.options.useCache then
    match s.store.load codec.list path with
    | .ok (some found) => (some found, { s with events := s.events ++ [cacheHit path] })
    | .ok none => (none, s)
    | .error _ => (none, { s with events := s.events ++ [unreadableEntry path] })
  else (none, s)

/-- Writes down what the source answered, the empty list where it failed. -/
def settle (codec : Codec α) (path : Cache.Path) (statement : String) (answer : Answer (List α)) :
    Act σ (List α) := do
  match answer with
  | .ok values =>
    save codec.list path values
    return values
  | .error e =>
    tell (askingFailed statement e)
    save codec.list path []
    return []

/-- The list in the cache, or the answer of the source. -/
def discover (w : Walker σ) (codec : Codec α) (path : Cache.Path) (statement : String)
    (request : Act σ (Answer (List α))) : Act σ (List α) := do
  match ← w.fromCache codec path with
  | some found => return found
  | none =>
    tell (asking statement)
    settle codec path statement (← request)

/-! ## The four lists -/

/-- The catalogs. -/
def catalogs (w : Walker σ) : Act σ (List String) :=
  w.discover Codec.string .catalogs "SHOW CATALOGS" do
    return (← w.source.askCatalogs).map fun names => names.map w.spell

/-- The schemas of a catalog. -/
def schemas (w : Walker σ) (catalog : String) : Act σ (List String) :=
  let raw := Name.restore catalog
  w.discover Codec.string (.schemas catalog) ("SHOW SCHEMAS FROM " ++ raw) do
    return (← w.source.askSchemas raw).map fun names => names.map w.spell

/-- The tables of a schema. -/
def tables (w : Walker σ) (catalog schema : String) : Act σ (List String) :=
  let rawCatalog := Name.restore catalog
  let rawSchema := Name.restore schema
  w.discover Codec.string (.tables catalog schema)
      ("SHOW TABLES FROM " ++ rawCatalog ++ "." ++ rawSchema) do
    return (← w.source.askTables rawCatalog rawSchema).map fun names => names.map w.spell

/-- The statement that asks for the columns of a table. -/
def describing (catalog schema table : String) : String :=
  "DESCRIBE " ++ Name.restore catalog ++ "." ++ Name.restore schema ++ "." ++ Name.restore table

/-- The columns of a table under the names by which it was asked for. -/
def columnsOf (w : Walker σ) (catalog schema table : String)
    (descriptions : List ColumnDescription) : List Column :=
  descriptions.map fun d => ⟨catalog, schema, table, w.spell d.name, d.nativeType⟩

/-- The columns of a table. -/
def columns (w : Walker σ) (catalog schema table : String) : Act σ (List Column) :=
  w.discover Column.codec (.columns catalog schema table) (describing catalog schema table) do
    return (← w.source.askColumns (Name.restore catalog) (Name.restore schema)
      (Name.restore table)).map (w.columnsOf catalog schema table)

/-! ## All columns of a catalog -/

/-- The lists of the tables as far as they are in the cache; the others are told. -/
def tablesFromCache (w : Walker σ) (catalog schema : String) :
    List String → Act σ (List (String × Option (List Column)))
  | [] => return []
  | table :: rest => do
    let found ← w.fromCache Column.codec (.columns catalog schema table)
    if found.isNone then tell (asking (describing catalog schema table))
    return (table, found) :: (← w.tablesFromCache catalog schema rest)

/-- The lists of the tables in their order; those that were not found take the answers. -/
def settleTables (w : Walker σ) (catalog schema : String) :
    List (String × Option (List Column)) → List (Answer (List ColumnDescription)) →
      Act σ (List (List Column))
  | [], _ => return []
  | (_, some found) :: rest, answers => do
    return found :: (← w.settleTables catalog schema rest answers)
  | (_, none) :: _, [] => return []
  | (table, none) :: rest, answer :: answers => do
    let columns ← settle Column.codec (.columns catalog schema table)
      (describing catalog schema table) (answer.map (w.columnsOf catalog schema table))
    return columns :: (← w.settleTables catalog schema rest answers)

/-- The columns of several tables of a schema. A source that is waited for is asked for all of them
at once. -/
def columnsOfTables (w : Walker σ) (catalog schema : String) (tables : List String) :
    Act σ (List (List Column)) :=
  match w.source.together with
  | none => tables.mapM (w.columns catalog schema)
  | some together => do
    let found ← w.tablesFromCache catalog schema tables
    let missing := (found.filter fun entry => entry.2.isNone).map fun entry => entry.1
    let raw := missing.map Name.restore
    let rawCatalog := Name.restore catalog
    let rawSchema := Name.restore schema
    let answers ← askTogether (raw.map fun table => .columns rawCatalog rawSchema table)
      (together rawCatalog rawSchema raw)
    w.settleTables catalog schema found answers

/-- The columns of all tables of a schema. -/
def schemaColumns (w : Walker σ) (catalog schema : String) : Act σ (List Column) := do
  let tables ← w.tables catalog schema
  return (← w.columnsOfTables catalog schema tables).flatten

/-- The columns of all tables of a catalog, in the order in which schemas and tables are listed. -/
def catalogColumns (w : Walker σ) (catalog : String) : Act σ (List Column) := do
  let schemas ← w.schemas catalog
  return (← schemas.mapM (w.schemaColumns catalog)).flatten

end Walker

end CatalogGraph.Discovery
