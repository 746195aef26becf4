import CatalogGraph.Cache.Database
import CatalogGraph.Cache.Path
import CatalogGraph.Json.Codec

/-!
# The cache

The cache keeps the results of discovery as JSON values. It is held in memory or in a namespace of
a database; both give the same answers, but for the sizes that they report and for texts written
into a database by others.

There is no age: an entry stays until it is removed. `invalidate` forgets everything below one
catalog, and the catalog list with it, or everything.
-/

namespace CatalogGraph.Cache

/-- A cache in memory, or in a namespace of a database. -/
inductive Store where
  | memory (entries : Dictionary Json)
  | database (db : Database) (space : String)

/-- The number of entries and the size of their texts. -/
structure Stats where
  entries : Nat
  size : Nat
deriving DecidableEq, Repr

/-- An entry that holds no JSON text, or not a value of the expected type. -/
inductive Unreadable where
  | text
  | type
deriving DecidableEq, Repr

/-- Whether a text starts with another one. -/
def startsWith (s start : String) : Bool := start.toList.isPrefixOf s.toList

namespace Store

/-- A cache in memory without entries. -/
def empty : Store := .memory []

/-- The database that a cache is kept in. -/
def database? : Store → Option Database
  | .memory _ => none
  | .database db _ => some db

/-! ## Single entries -/

/-- The value of an entry. -/
def find (store : Store) (path : Path) : Except Unreadable (Option Json) :=
  match store with
  | .memory entries => .ok (Dictionary.find? entries path.key)
  | .database db space =>
    match db.find? space path.key with
    | none => .ok none
    | some s =>
      match Json.parse? s with
      | some j => .ok (some j)
      | none => .error .text

/-- The cache with a value written at a path. -/
def put (store : Store) (path : Path) (value : Json) : Store :=
  match store with
  | .memory entries => .memory (Dictionary.insert entries path.key value)
  | .database db space => .database (db.write space path.key value.compact) space

/-- Whether there is an entry at a path. -/
def has (store : Store) (path : Path) : Bool :=
  match store with
  | .memory entries => (Dictionary.find? entries path.key).isSome
  | .database db space => (db.find? space path.key).isSome

/-- The cache without the entry at a path. -/
def erase (store : Store) (path : Path) : Store :=
  match store with
  | .memory entries => .memory (Dictionary.erase entries path.key)
  | .database db space => .database (db.erase space path.key) space

/-! ## All entries -/

/-- How many entries have keys that start with a text. -/
def count (store : Store) (start : String) : Nat :=
  match store with
  | .memory entries => entries.countP fun entry => startsWith entry.1 start
  | .database db space => (db.search space start).length

/-- The cache without the entries whose keys start with a text. -/
def clear (store : Store) (start : String) : Store :=
  match store with
  | .memory entries => .memory (entries.filter fun entry => !startsWith entry.1 start)
  | .database db space => .database (db.clear space start) space

/-- The keys that start with a text, ascending. -/
def keys (store : Store) (start : String) : List String :=
  match store with
  | .memory entries => (Dictionary.keys entries).filter fun key => startsWith key start
  | .database db space => db.keys space start

/-- The number of entries and the size of their texts: in memory the bytes of the compact texts,
in a database the characters before the first NUL. -/
def stats (store : Store) : Stats :=
  match store with
  | .memory entries =>
    ⟨entries.length, entries.foldr (fun entry size => entry.2.compact.utf8ByteSize + size) 0⟩
  | .database db space =>
    let rows := db.search space ""
    ⟨rows.length, rows.foldr (fun row size => (Database.beforeNul row.2).length + size) 0⟩

/-! ## Typed entries -/

/-- The value of an entry, read as a value of the codec. -/
def load {α : Type} (codec : Json.Codec α) (store : Store) (path : Path) :
    Except Unreadable (Option α) :=
  match store.find path with
  | .error e => .error e
  | .ok none => .ok none
  | .ok (some j) =>
    match codec.decode j with
    | .ok a => .ok (some a)
    | .error _ => .error .type

/-- The cache with a value of the codec written at a path. -/
def save {α : Type} (codec : Json.Codec α) (store : Store) (path : Path) (value : α) : Store :=
  store.put path (codec.encode value).normal

/-! ## Invalidation -/

/-- The cache after everything below a catalog has been forgotten, or everything where no catalog
is named, with the number of entries that were removed. -/
def invalidate (store : Store) : Option String → Nat × Store
  | none => (store.count "", store.clear "")
  | some catalog =>
    let start := Path.catalogRoot catalog
    let rest := store.clear start
    (store.count start + (if rest.has .catalogs then 1 else 0), rest.erase .catalogs)

end Store

end CatalogGraph.Cache
