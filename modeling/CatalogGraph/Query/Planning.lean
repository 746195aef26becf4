import CatalogGraph.Query.Service
import CatalogGraph.Worker.Link

/-!
# Planned queries

Over a worker, queries can be made at once. Each of them is planned first: its request is translated
into a query, which is sent once, and the rows of its outcome are renamed as those of any query.
-/

namespace CatalogGraph.Query

open Worker

/-- The plan of a request over a connection, if a query can be made of it. -/
def Service.plan {σ : Type} (service : Service σ) (c : Connection) (request : TableRequest) :
    Except Failure (Plan Failure (List Row)) :=
  match service.prepare request with
  | .error e => .error (.fault e)
  | .ok bound =>
    let e := Exchange.executeQuery c bound.sql bound.args
    .ok ⟨.once e.request, fun outcome =>
      match e.read outcome with
      | .error fault => .error (.source (.worker fault))
      | .ok table => .ok (table.toRows.map renameRow)⟩

end CatalogGraph.Query
