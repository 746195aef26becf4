import CatalogGraph.Discovery.Column
import CatalogGraph.Query.Translation
import CatalogGraph.Worker.Error

/-!
# Metadata sources

A source answers requests about the engine: which catalogs, schemas, tables and columns there are,
and which rows a query has. Names that are passed to a source or come from it are names of the
engine. A source has a state, so it need not answer a request twice in the same way.
-/

namespace CatalogGraph.Discovery

/-- Why a source has no answer. -/
inductive SourceError where
  /-- The worker failed. -/
  | worker (e : Worker.Error)
  /-- There is no such catalog, schema or table. -/
  | notFound (what : String)
  /-- The source cannot answer. -/
  | unavailable (reason : String)
deriving DecidableEq, Repr

/-- The text of a fault. -/
def SourceError.message : SourceError → String
  | .worker e => e.message
  | .notFound what => "not found: " ++ what
  | .unavailable reason => "source unavailable: " ++ reason

/-- An answer of a source. -/
abbrev Answer (α : Type) := Except SourceError α

/-- A request to a source. -/
inductive Request where
  | catalogs
  | schemas (catalog : String)
  | tables (catalog schema : String)
  | columns (catalog schema table : String)
  | rows (query : Query.Bound)
deriving DecidableEq, Repr

/-- A source whose state is of type `σ`. A source that is waited for can be asked for the columns
of many tables at once; it then gives the answers in the order of the tables. -/
structure Source (σ : Type) where
  catalogs : σ → Answer (List String) × σ
  schemas : String → σ → Answer (List String) × σ
  tables : String → String → σ → Answer (List String) × σ
  columns : String → String → String → σ → Answer (List ColumnDescription) × σ
  together : Option (String → String → List String → σ →
    List (Answer (List ColumnDescription)) × σ)
  rows : Query.Bound → σ → Answer (List Row) × σ

end CatalogGraph.Discovery
