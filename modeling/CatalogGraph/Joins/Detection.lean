import CatalogGraph.Discovery.Walker
import CatalogGraph.Joins.Candidate

/-!
# Detecting joins

Columns are compared within a scope: each schema for itself, or the whole catalog. Within a scope a
column `x_id` refers to the columns `id` of the tables named after `x`, and columns of different
tables whose names match are joined. Nothing is checked against data.
-/

namespace CatalogGraph.Joins

open Discovery

/-- How far apart two joined columns may be. -/
inductive Strategy where
  /-- Within one schema. -/
  | sameSchema
  /-- Anywhere in the catalog. -/
  | global
deriving DecidableEq, Repr

/-- The name of a strategy in settings. -/
def Strategy.name : Strategy → String
  | .sameSchema => "same_schema"
  | .global => "global"

/-- The name of a strategy in events. -/
def Strategy.label : Strategy → String
  | .sameSchema => "SameSchema"
  | .global => "Global"

/-! ## Scopes -/

/-- A column that takes part in the comparison. -/
def isEligible (c : Column) : Bool := !isInternalSchema c.schema && isJoinableType c.nativeType

/-- Adds a column to the group with its key, or makes a new group at the end. -/
def addToGroup {κ : Type} [DecidableEq κ] (key : κ) (c : Column) :
    List (κ × List Column) → List (κ × List Column)
  | [] => [(key, [c])]
  | (k, members) :: rest =>
    if k = key then (k, members ++ [c]) :: rest else (k, members) :: addToGroup key c rest

/-- The columns in groups of equal keys, in the order in which the keys occur. -/
def groupBy {κ : Type} [DecidableEq κ] (key : Column → κ) (columns : List Column) :
    List (List Column) :=
  (columns.foldl (fun groups c => addToGroup (key c) c groups) []).map Prod.snd

/-- The scopes within which columns are compared. -/
def scopes (strategy : Strategy) (columns : List Column) : List (List Column) :=
  match strategy with
  | .global => [columns]
  | .sameSchema => groupBy (fun c => (c.catalog, c.schema)) columns

/-! ## Pairs -/

/-- The columns of a scope that a column refers to by its name. -/
def foreignKeys (scope : List Column) (c : Column) : List Candidate :=
  match idStem? c.name with
  | none => []
  | some stem =>
    (scope.filter fun target =>
      Text.sameIgnoringAsciiCase target.name "id" && !c.sameTable target &&
        tableMatches target.table stem).map fun target => ⟨c, target, .foreignKeySuffix⟩

/-- Two columns put in order and joined, where they are of different tables and match by name. -/
def sharedName (a b : Column) : Option Candidate :=
  if a.sameTable b then none
  else
    match joinability a.name b.name with
    | none => none
    | some basis => some (if b.orderKey < a.orderKey then ⟨b, a, basis⟩ else ⟨a, b, basis⟩)

/-- The matches of each column of a group with the columns after it. -/
def sharedNames : List Column → List Candidate
  | [] => []
  | c :: rest => rest.filterMap (sharedName c) ++ sharedNames rest

/-- The candidates of a scope. -/
def scopeCandidates (scope : List Column) : List Candidate :=
  scope.flatMap (foreignKeys scope) ++
    (groupBy (fun c => normalizeColumn c.name) scope).flatMap sharedNames

/-- The candidates among columns, in their order, each once. -/
def detect (strategy : Strategy) (columns : List Column) : List Candidate :=
  Candidate.sort ((scopes strategy (columns.filter isEligible)).flatMap scopeCandidates)

/-! ## Catalogs -/

/-- The joins of a catalog were detected. -/
def detected (catalog : String) (strategy : Strategy) (columns : List Column)
    (candidates : List Candidate) : Event :=
  ⟨.info, "join detection finished",
    [("catalog", catalog), ("columns", Text.decimal columns.length),
     ("candidates", Text.decimal candidates.length), ("strategy", strategy.label)]⟩

/-- The candidates among the columns of a catalog; they are kept in the cache. -/
def detectCatalog {σ : Type} (w : Walker σ) (strategy : Strategy) (catalog : String) :
    Act σ (List Candidate) := do
  let columns ← w.catalogColumns catalog
  let candidates := detect strategy columns
  tell (detected catalog strategy columns candidates)
  save Candidate.codec.list (.joins catalog) candidates
  return candidates

end CatalogGraph.Joins
