import CatalogGraph.Discovery.Walker

/-!
# Overlapping lookups

The columns of the tables of a schema are looked up at the same time. Each lookup takes three steps:
it reads the cache, it asks the source if the cache did not have the list, and it writes the answer
into the cache. Lookups that overlap take turns: a turn is the next step of one of them, in the
session that the turn before has left. Lookups that are not done when the turns are over go on one
after the other, so without turns they do not overlap at all.
-/

namespace CatalogGraph.Discovery

/-- How far a lookup of columns has come. -/
inductive Progress where
  | waiting
  /-- The cache does not have the list. -/
  | missed
  | answered (answer : Answer (List Column))
  | done (columns : List Column)

/-- The columns that a lookup has found, none before it is done. -/
def Progress.columns : Progress → List Column
  | .done columns => columns
  | _ => []

namespace Walker

variable {σ : Type}

/-- The next step of a lookup. -/
def step (w : Walker σ) (catalog schema table : String) : Progress → Act σ Progress
  | .waiting => do
    match ← w.fromCache Column.codec (.columns catalog schema table) with
    | some found => return .done found
    | none => return .missed
  | .missed => do
    tell (asking (describing catalog schema table))
    return .answered ((← w.source.askColumns (Name.restore catalog) (Name.restore schema)
      (Name.restore table)).map (w.columnsOf catalog schema table))
  | .answered answer => do
    return .done (← settle Column.codec (.columns catalog schema table)
      (describing catalog schema table) answer)
  | .done columns => return .done columns

/-- All steps of a lookup that are left. -/
def finish (w : Walker σ) (catalog schema table : String) (progress : Progress) :
    Act σ (List Column) := do
  let progress ← w.step catalog schema table progress
  let progress ← w.step catalog schema table progress
  let progress ← w.step catalog schema table progress
  return progress.columns

/-- The turn of the lookup with the given number. -/
def takeTurn (w : Walker σ) (catalog schema : String) :
    Nat → List (String × Progress) → Act σ (List (String × Progress))
  | _, [] => return []
  | 0, (table, progress) :: rest => do
    return (table, ← w.step catalog schema table progress) :: rest
  | i + 1, lookup :: rest => do return lookup :: (← w.takeTurn catalog schema i rest)

/-- Turns one after the other. -/
def takeTurns (w : Walker σ) (catalog schema : String) :
    List Nat → List (String × Progress) → Act σ (List (String × Progress))
  | [], lookups => return lookups
  | i :: turns, lookups => do
    w.takeTurns catalog schema turns (← w.takeTurn catalog schema i lookups)

/-- The columns of several tables of a schema, looked up in turns. -/
def overlapping (w : Walker σ) (turns : List Nat) (catalog schema : String)
    (tables : List String) : Act σ (List (List Column)) := do
  let lookups ← w.takeTurns catalog schema turns (tables.map fun table => (table, .waiting))
  lookups.mapM fun lookup => w.finish catalog schema lookup.1 lookup.2

/-- The columns of all tables of a schema, looked up in turns. -/
def schemaColumnsIn (w : Walker σ) (turns : List Nat) (catalog schema : String) :
    Act σ (List Column) := do
  let tables ← w.tables catalog schema
  return (← w.overlapping turns catalog schema tables).flatten

/-- The columns of all tables of a catalog, looked up in turns of their own for each schema. -/
def catalogColumnsIn (w : Walker σ) (turns : String → List Nat) (catalog : String) :
    Act σ (List Column) := do
  let schemas ← w.schemas catalog
  return (← schemas.mapM fun schema =>
    w.schemaColumnsIn (turns schema) catalog schema).flatten

end Walker

end CatalogGraph.Discovery
