import CatalogGraph.Cache.Store
import CatalogGraph.Discovery.Source
import CatalogGraph.Event

/-!
# Sessions

A session is what discovery works on: the state of the source, the cache, the requests that the
source was asked so far, and the events that were told. Requests and events are in the order in
which they happened.
-/

namespace CatalogGraph.Discovery

/-- The source, the cache and the history of a session. -/
structure Session (σ : Type) where
  source : σ
  store : Cache.Store
  requests : List Request
  events : List Event

/-- Something done in a session. -/
abbrev Act (σ : Type) := StateM (Session σ)

namespace Session

variable {σ : Type}

/-- A session at its start. -/
def start (source : σ) (store : Cache.Store) : Session σ := ⟨source, store, [], []⟩

end Session

variable {σ : Type}

/-- Tells an event. -/
def tell (e : Event) : Act σ Unit := fun s =>
  ((), { s with events := s.events ++ [e] })

/-- Tells events in their order. -/
def tellAll (es : List Event) : Act σ Unit := fun s =>
  ((), { s with events := s.events ++ es })

/-- Asks the source. -/
def ask {α : Type} (request : Request) (answer : σ → α × σ) : Act σ α := fun s =>
  let (a, source) := answer s.source
  (a, { s with source := source, requests := s.requests ++ [request] })

/-- Asks the source several things at once. -/
def askTogether {α : Type} (requests : List Request) (answer : σ → α × σ) : Act σ α := fun s =>
  let (a, source) := answer s.source
  (a, { s with source := source, requests := s.requests ++ requests })

/-- Writes a value into the cache. -/
def save {α : Type} (codec : Json.Codec α) (path : Cache.Path) (value : α) : Act σ Unit := fun s =>
  ((), { s with store := s.store.save codec path value })

/-- Forgets everything below a catalog, or everything. -/
def forget (catalog : Option String) : Act σ Nat := fun s =>
  let (n, store) := s.store.invalidate catalog
  (n, { s with store := store })

namespace Source

/-! ## Requests of a session -/

/-- Asks for the catalogs. -/
def askCatalogs (source : Source σ) : Act σ (Answer (List String)) :=
  ask .catalogs source.catalogs

/-- Asks for the schemas of a catalog. -/
def askSchemas (source : Source σ) (catalog : String) : Act σ (Answer (List String)) :=
  ask (.schemas catalog) (source.schemas catalog)

/-- Asks for the tables of a schema. -/
def askTables (source : Source σ) (catalog schema : String) : Act σ (Answer (List String)) :=
  ask (.tables catalog schema) (source.tables catalog schema)

/-- Asks for the columns of a table. -/
def askColumns (source : Source σ) (catalog schema table : String) :
    Act σ (Answer (List ColumnDescription)) :=
  ask (.columns catalog schema table) (source.columns catalog schema table)

/-- Asks for the rows of a query. -/
def askRows (source : Source σ) (query : Query.Bound) : Act σ (Answer (List Row)) :=
  ask (.rows query) (source.rows query)

end Source

end CatalogGraph.Discovery
