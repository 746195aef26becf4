import CatalogGraph.Cache.Store

/-!
# Operations on a cache

Whatever is done with a cache is one of a few operations, and each of them has an answer. So the use
of a cache is a list of operations, and two caches are used alike if they give the same answers.
-/

namespace CatalogGraph.Cache

/-- Something to be done with a cache. -/
inductive Operation where
  | put (path : Path) (value : Json)
  | find (path : Path)
  | erase (path : Path)
  /-- Remove the entries whose keys start with a text. -/
  | clear (start : String)
  /-- Forget everything below a catalog, or everything. -/
  | invalidate (catalog : Option String)
  /-- List the keys that start with a text. -/
  | keys (start : String)
  | stats

/-- What is answered to an operation. -/
inductive Answer where
  | done
  | found (value : Except Unreadable (Option Json))
  /-- Whether there was an entry. -/
  | erased (present : Bool)
  /-- How many entries were removed. -/
  | removed (n : Nat)
  | keys (ks : List String)
  | stats (s : Stats)

namespace Store

/-- Does an operation. -/
def perform (store : Store) : Operation → Answer × Store
  | .put path value => (.done, store.put path value)
  | .find path => (.found (store.find path), store)
  | .erase path => (.erased (store.has path), store.erase path)
  | .clear start => (.removed (store.count start), store.clear start)
  | .invalidate catalog =>
    let (n, rest) := store.invalidate catalog
    (.removed n, rest)
  | .keys start => (.keys (store.keys start), store)
  | .stats => (.stats store.stats, store)

/-- Does operations one after the other. -/
def performAll (store : Store) : List Operation → List Answer × Store
  | [] => ([], store)
  | op :: ops =>
    let (answer, next) := store.perform op
    let (answers, last) := next.performAll ops
    (answer :: answers, last)

end Store

end CatalogGraph.Cache
