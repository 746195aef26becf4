import CatalogGraph.Discovery.Session
import CatalogGraph.Query.Translation

/-!
# Table queries

The service translates filters into a query, has the source answer it, and renames the columns of
the rows so that they fit the names of the schema. It keeps nothing between requests.
-/

namespace CatalogGraph.Query

open Discovery

/-- The limit of a query that names none. -/
def standardLimit : Int := 1000

/-- A service over a source with the limit of queries that name none. -/
structure Service (σ : Type) where
  source : Source σ
  defaultLimit : Int

/-- Why a request has no rows. -/
inductive Failure where
  /-- No query could be made of the request. -/
  | fault (e : Fault)
  /-- The source did not answer. -/
  | source (e : SourceError)
deriving DecidableEq, Repr

/-- The text of a failure. -/
def Failure.message : Failure → String
  | .fault e => e.message
  | .source e => "query failed: " ++ e.message

/-- A request for the rows of a table. -/
structure TableRequest where
  catalog : String
  schema : String
  table : String
  limit : Option Int
  filters : List Filter
deriving Repr

/-- A query is about to be sent. -/
def executing (query : Bound) : Event :=
  ⟨.info, "executing table query",
    [("sql", query.sql), ("params", Text.decimal query.params.length)]⟩

/-- A query was answered. -/
def finished (rows : List Row) : Event :=
  ⟨.debug, "table query finished", [("rows", Text.decimal rows.length)]⟩

/-- The row with its columns renamed; of two columns with one new name the later one is kept. -/
def renameRow (row : Row) : Row :=
  Dictionary.ofList (row.map fun (name, value) => (Name.sanitize name, value))

namespace Service

variable {σ : Type}

/-- The query of a request, which is not sent. -/
def prepare (service : Service σ) (request : TableRequest) : Except Fault Bound :=
  translate request.catalog request.schema request.table
    (request.limit.getD service.defaultLimit) request.filters

/-- The rows of a request. -/
def query (service : Service σ) (request : TableRequest) : Act σ (Except Failure (List Row)) := do
  match service.prepare request with
  | .error e => return .error (.fault e)
  | .ok bound =>
    tell (executing bound)
    match ← service.source.askRows bound with
    | .error e => return .error (.source e)
    | .ok rows =>
      tell (finished rows)
      return .ok (rows.map renameRow)

end Service

end CatalogGraph.Query
