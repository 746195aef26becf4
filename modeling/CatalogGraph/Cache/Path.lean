import CatalogGraph.Name

/-!
# Places in the cache

An entry has its place under the names that lead to it: the catalog list at the top, the schemas of
a catalog below the catalog, and so on. Names are rewritten to fit the schema grammar when a path
is made, so no segment holds a slash and the key of a path can be read in one way only.

```
catalogs
hive/schemas
hive/sales/tables
hive/sales/orders/columns
hive/joins
```
-/

namespace CatalogGraph.Cache

/-- What an entry holds. -/
inductive Leaf where
  | catalogs
  | schemas
  | tables
  | columns
  | joins
deriving DecidableEq, Repr

/-- The last part of a key. -/
def Leaf.text : Leaf → String
  | .catalogs => "catalogs"
  | .schemas => "schemas"
  | .tables => "tables"
  | .columns => "columns"
  | .joins => "joins"

/-- The place of an entry. -/
structure Path where
  segments : List String
  leaf : Leaf
deriving DecidableEq, Repr

namespace Path

/-- The path below the given names, in either spelling. -/
def below (names : List String) (leaf : Leaf) : Path := ⟨names.map Name.sanitize, leaf⟩

/-- The place of the catalog list. -/
def catalogs : Path := below [] .catalogs

/-- The place of the schemas of a catalog. -/
def schemas (catalog : String) : Path := below [catalog] .schemas

/-- The place of the tables of a schema. -/
def tables (catalog schema : String) : Path := below [catalog, schema] .tables

/-- The place of the columns of a table. -/
def columns (catalog schema table : String) : Path := below [catalog, schema, table] .columns

/-- The place of the join candidates of a catalog. -/
def joins (catalog : String) : Path := below [catalog] .joins

/-- The key of a path: its segments, each with a slash after it, and its leaf. -/
def key (path : Path) : String :=
  String.join (path.segments.map (· ++ "/")) ++ path.leaf.text

/-- What the keys of all entries below a catalog start with. -/
def catalogRoot (catalog : String) : String := Name.sanitize catalog ++ "/"

end Path

end CatalogGraph.Cache
