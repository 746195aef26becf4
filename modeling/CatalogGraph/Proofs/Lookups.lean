import CatalogGraph.Discovery.Walker
import CatalogGraph.Proofs.Codecs
import CatalogGraph.Proofs.Invalidation
import CatalogGraph.Proofs.Views

/-!
# One list of a walker

The four lists that a walker hands out are lookups in one form: a place in the cache, a request to
the source, and what the walker makes of the answer. A lookup either returns what the cache holds at
its place and changes nothing (`list_of_loads`), or it asks the source once and writes down what it
returns (`list_of_not_loads`).
-/

namespace CatalogGraph.Discovery

open Cache Json

variable {σ α : Type}

/-! ## Lists and lookups -/

/-- A list that a walker hands out. -/
inductive Listing where
  | names (names : List String)
  | columns (columns : List Column)
deriving DecidableEq, Repr

/-- The value that is kept of a list. -/
def Listing.json : Listing → Json
  | .names ns => (Codec.string.list.encode ns).normal
  | .columns cs => (Column.codec.list.encode cs).normal

/-- A list that a walker is asked for, with the names in either spelling. -/
inductive Lookup where
  | catalogs
  | schemas (catalog : String)
  | tables (catalog schema : String)
  | columns (catalog schema table : String)
deriving DecidableEq, Repr

namespace Lookup

def names : Lookup → List String
  | .catalogs => []
  | .schemas catalog => [catalog]
  | .tables catalog schema => [catalog, schema]
  | .columns catalog schema table => [catalog, schema, table]

def leaf : Lookup → Leaf
  | .catalogs => .catalogs
  | .schemas _ => .schemas
  | .tables _ _ => .tables
  | .columns _ _ _ => .columns

def path (l : Lookup) : Path := .below l.names l.leaf

/-- What the source is asked, in names of the engine. -/
def request : Lookup → Request
  | .catalogs => .catalogs
  | .schemas catalog => .schemas (Name.restore catalog)
  | .tables catalog schema => .tables (Name.restore catalog) (Name.restore schema)
  | .columns catalog schema table =>
    .columns (Name.restore catalog) (Name.restore schema) (Name.restore table)

/-- The list in the cache. -/
def load (l : Lookup) (store : Store) : Except Unreadable (Option Listing) :=
  match l.leaf with
  | .columns => (store.load Column.codec.list l.path).map (Option.map .columns)
  | _ => (store.load Codec.string.list l.path).map (Option.map .names)

/-- The list that stands for a failed request. -/
def nothing (l : Lookup) : Listing :=
  match l.leaf with
  | .columns => .columns []
  | _ => .names []

def reply (l : Lookup) : Answer Listing → Listing
  | .ok found => found
  | .error _ => l.nothing

def spelled (w : Walker σ) (given : Answer (List String) × σ) : Answer (List String) × σ :=
  (given.1.map (List.map w.spell), given.2)

def described (w : Walker σ) (catalog schema table : String)
    (given : Answer (List ColumnDescription) × σ) : Answer (List Column) × σ :=
  (given.1.map (List.map fun d => ⟨catalog, schema, table, w.spell d.name, d.nativeType⟩), given.2)

def listing (wrap : List α → Listing) (given : Answer (List α) × σ) : Answer Listing × σ :=
  (given.1.map wrap, given.2)

/-- The answer of the source as the walker spells it, and the state of the source after it. -/
def answer (w : Walker σ) : Lookup → σ → Answer Listing × σ
  | .catalogs, state => listing .names (spelled w (w.source.catalogs state))
  | .schemas catalog, state =>
    listing .names (spelled w (w.source.schemas (Name.restore catalog) state))
  | .tables catalog schema, state =>
    listing .names (spelled w (w.source.tables (Name.restore catalog) (Name.restore schema) state))
  | .columns catalog schema table, state =>
    listing .columns (described w catalog schema table (w.source.columns (Name.restore catalog)
      (Name.restore schema) (Name.restore table) state))

/-- The cache is read and holds the list. -/
def Loads (w : Walker σ) (l : Lookup) (store : Store) : Prop :=
  w.options.useCache = true ∧ ∃ found, l.load store = .ok (some found)

end Lookup

def Walker.list (w : Walker σ) : Lookup → Act σ Listing
  | .catalogs => do return .names (← w.catalogs)
  | .schemas catalog => do return .names (← w.schemas catalog)
  | .tables catalog schema => do return .names (← w.tables catalog schema)
  | .columns catalog schema table => do return .columns (← w.columns catalog schema table)

/-! ## Discovery of one list -/

theorem bind_run {β : Type} (m : Act σ α) (k : α → Act σ β) (s : Session σ) :
    (m >>= k) s = k (m s).1 (m s).2 := rfl

theorem mapM_cons_run {β : Type} (g : α → Act σ β) (a : α) (as : List α) (s : Session σ) :
    (a :: as).mapM g s =
      ((g a s).1 :: (as.mapM g (g a s).2).1, (as.mapM g (g a s).2).2) := by
  rw [List.mapM_cons]
  rfl

theorem discover_of_load (w : Walker σ) {codec : Codec α} {path : Path} {s : Session σ}
    {found : List α} (hcache : w.options.useCache = true)
    (hload : s.store.load codec.list path = .ok (some found)) (statement : String)
    (request : Act σ (Answer (List α))) :
    w.discover codec path statement request s =
      (found, { s with events := s.events ++ [cacheHit path] }) := by
  have hfrom : w.fromCache codec path s =
      (some found, { s with events := s.events ++ [cacheHit path] }) := by
    unfold Walker.fromCache
    rw [if_pos hcache, hload]
  unfold Walker.discover
  rw [bind_run, hfrom]
  rfl

/-- The list that the walker takes from a cache. -/
def Walker.cached? (w : Walker σ) (codec : Codec α) (path : Path) (store : Store) :
    Option (List α) :=
  if w.options.useCache then
    match store.load codec.list path with
    | .ok found => found
    | .error _ => none
  else none

theorem fromCache_eq (w : Walker σ) (codec : Codec α) (path : Path) (s : Session σ) :
    ∃ events, w.fromCache codec path s = (w.cached? codec path s.store, { s with events }) := by
  unfold Walker.fromCache Walker.cached?
  by_cases hcache : w.options.useCache = true
  · rw [if_pos hcache, if_pos hcache]
    cases s.store.load codec.list path with
    | error e => exact ⟨_, rfl⟩
    | ok found =>
      cases found with
      | none => exact ⟨_, rfl⟩
      | some found => exact ⟨_, rfl⟩
  · rw [if_neg hcache, if_neg hcache]
    exact ⟨_, rfl⟩

theorem cached?_eq_none {w : Walker σ} {codec : Codec α} {path : Path} {store : Store}
    (h : ¬ (w.options.useCache = true ∧
      ∃ found, store.load codec.list path = .ok (some found))) :
    w.cached? codec path store = none := by
  unfold Walker.cached?
  split
  · rename_i hcache
    cases hload : store.load codec.list path with
    | error e => rfl
    | ok found =>
      cases found with
      | none => rfl
      | some found => exact absurd ⟨hcache, found, hload⟩ h
  · rfl

theorem settle_eq (codec : Codec α) (path : Path) (statement : String) (answer : Answer (List α))
    (s : Session σ) :
    ∃ events, Walker.settle codec path statement answer s =
      (listed answer,
        { s with store := s.store.save codec.list path (listed answer), events }) := by
  cases answer with
  | ok values => exact ⟨_, rfl⟩
  | error e => exact ⟨_, rfl⟩

/-- The session after a list was asked of the source and written down, but for the events. -/
structure Asked (codec : Codec α) (path : Path) (request : Request) (given : Answer (List α) × σ)
    (s : Session σ) (out : List α × Session σ) : Prop where
  value : out.1 = listed given.1
  source : out.2.source = given.2
  store : out.2.store = s.store.save codec.list path (listed given.1)
  requests : out.2.requests = s.requests ++ [request]

theorem discover_of_not_load (w : Walker σ) {codec : Codec α} {path : Path} {s : Session σ}
    (hload : ¬ (w.options.useCache = true ∧
      ∃ found, s.store.load codec.list path = .ok (some found)))
    (statement : String) {ask : Act σ (Answer (List α))} {request : Request}
    (answer : σ → Answer (List α) × σ)
    (hask : ∀ t, ask t = ((answer t.source).1,
      { t with source := (answer t.source).2, requests := t.requests ++ [request] })) :
    Asked codec path request (answer s.source) s (w.discover codec path statement ask s) := by
  obtain ⟨events, hfrom⟩ := fromCache_eq w codec path s
  rw [cached?_eq_none hload] at hfrom
  unfold Walker.discover
  rw [bind_run, hfrom]
  -- What is left is the event of the request, the request, and the writing down.
  simp only [bind_run, tell, hask]
  obtain ⟨events', hsettle⟩ := settle_eq codec path statement (answer s.source).1 { s with
    source := (answer s.source).2
    requests := s.requests ++ [request]
    events := events ++ [asking statement] }
  rw [hsettle]
  exact ⟨rfl, rfl, rfl, rfl⟩

/-! ## Lookups in a session -/

variable {w : Walker σ} {l : Lookup} {s : Session σ}

/-- The source is asked once, and what is returned is written at the place of the list. -/
structure Fetches (w : Walker σ) (l : Lookup) (s : Session σ) : Prop where
  value : (w.list l s).1 = l.reply (l.answer w s.source).1
  source : (w.list l s).2.source = (l.answer w s.source).2
  requests : (w.list l s).2.requests = s.requests ++ [l.request]
  store : (w.list l s).2.store = s.store.put l.path (w.list l s).1.json

theorem Asked.fetches {codec : Codec α} {wrap : List α → Listing} {given : Answer (List α) × σ}
    {out : List α × Session σ} (h : Asked codec l.path l.request given s out)
    (hlist : w.list l s = (wrap out.1, out.2))
    (hanswer : l.answer w s.source = Lookup.listing wrap given) (hnothing : l.nothing = wrap [])
    (hjson : ∀ values, (wrap values).json = (codec.list.encode values).normal) :
    Fetches w l s := by
  have hreply : l.reply (l.answer w s.source).1 = wrap out.1 := by
    rw [hanswer, h.value, Lookup.listing]
    cases given.1 with
    | ok values => rfl
    | error e => exact hnothing
  refine ⟨?_, ?_, ?_, ?_⟩
  · rw [hreply, hlist]
  · rw [hlist, hanswer]
    exact h.source
  · rw [hlist, h.requests]
  · rw [hlist, h.store, hjson, h.value]
    rfl

theorem not_load_of_map {ε β : Type} {x : Except ε (Option (List α))} {wrap : List α → β} {p : Prop}
    (h : ¬ (p ∧ ∃ found, x.map (Option.map wrap) = .ok (some found))) :
    ¬ (p ∧ ∃ found, x = .ok (some found)) := by
  rintro ⟨hp, found, rfl⟩
  exact h ⟨hp, wrap found, rfl⟩

/-- What the cache does not give is asked of the source. -/
theorem list_of_not_loads (h : ¬ l.Loads w s.store) : Fetches w l s := by
  cases l with
  | catalogs =>
    have hasked : Asked Codec.string .catalogs .catalogs
        (Lookup.spelled w (w.source.catalogs s.source)) s (w.catalogs s) :=
      discover_of_not_load w (not_load_of_map h) _
        (fun state => Lookup.spelled w (w.source.catalogs state)) fun _ => rfl
    exact hasked.fetches rfl rfl rfl fun _ => rfl
  | schemas catalog =>
    have hasked : Asked Codec.string (.schemas catalog) (.schemas (Name.restore catalog))
        (Lookup.spelled w (w.source.schemas (Name.restore catalog) s.source)) s
        (w.schemas catalog s) :=
      discover_of_not_load w (not_load_of_map h) _
        (fun state => Lookup.spelled w (w.source.schemas (Name.restore catalog) state))
        fun _ => rfl
    exact hasked.fetches rfl rfl rfl fun _ => rfl
  | tables catalog schema =>
    have hasked : Asked Codec.string (.tables catalog schema)
        (.tables (Name.restore catalog) (Name.restore schema))
        (Lookup.spelled w (w.source.tables (Name.restore catalog) (Name.restore schema) s.source)) s
        (w.tables catalog schema s) :=
      discover_of_not_load w (not_load_of_map h) _ (fun state =>
        Lookup.spelled w (w.source.tables (Name.restore catalog) (Name.restore schema) state))
        fun _ => rfl
    exact hasked.fetches rfl rfl rfl fun _ => rfl
  | columns catalog schema table =>
    have hasked : Asked Column.codec (.columns catalog schema table)
        (.columns (Name.restore catalog) (Name.restore schema) (Name.restore table))
        (Lookup.described w catalog schema table (w.source.columns (Name.restore catalog)
          (Name.restore schema) (Name.restore table) s.source)) s
        (w.columns catalog schema table s) :=
      discover_of_not_load w (not_load_of_map h) _ (fun state =>
        Lookup.described w catalog schema table (w.source.columns (Name.restore catalog)
          (Name.restore schema) (Name.restore table) state)) fun _ => rfl
    exact hasked.fetches rfl rfl rfl fun _ => rfl

/-- What the cache gives is returned, and only the events change. -/
theorem list_of_loads {found : Listing} (hcache : w.options.useCache = true)
    (h : l.load s.store = .ok (some found)) :
    ∃ events, w.list l s = (found, { s with events }) := by
  have hmap {α : Type} {x : Except Unreadable (Option (List α))} {wrap : List α → Listing}
      (hx : x.map (Option.map wrap) = .ok (some found)) :
      ∃ values, x = .ok (some values) ∧ found = wrap values := by
    cases x with
    | error e => cases hx
    | ok values =>
      cases values with
      | none => cases hx
      | some values => exact ⟨values, rfl, (Option.some.inj (Except.ok.inj hx)).symm⟩
  cases l with
  | columns catalog schema table =>
    obtain ⟨values, hload, rfl⟩ := hmap h
    exact ⟨_, congrArg (fun out : List Column × Session σ => (Listing.columns out.1, out.2))
      (discover_of_load w hcache hload _ _)⟩
  | _ =>
    obtain ⟨values, hload, rfl⟩ := hmap h
    exact ⟨_, congrArg (fun out : List String × Session σ => (Listing.names out.1, out.2))
      (discover_of_load w hcache hload _ _)⟩

theorem not_loads_of_not_useCache (h : w.options.useCache = false) (l : Lookup) (store : Store) :
    ¬ l.Loads w store := by
  rintro ⟨hcache, -⟩
  rw [h] at hcache
  cases hcache

/-! ## What is written and found again -/

namespace Lookup

theorem plain_path (l : Lookup) : l.path.Plain := Path.plain_below _ _

/-- The list is of the kind that the lookup asks for. -/
def Fits (l : Lookup) : Listing → Prop
  | .names _ => l.leaf ≠ .columns
  | .columns _ => l.leaf = .columns

theorem fits_nothing (l : Lookup) : l.Fits l.nothing := by
  cases l <;> simp [nothing, leaf, Fits]

theorem fits_listing {wrap : List α → Listing} (hwrap : ∀ values, l.Fits (wrap values))
    (given : Answer (List α) × σ) : l.Fits (l.reply (listing wrap given).1) := by
  obtain ⟨given, next⟩ := given
  cases given with
  | ok values => exact hwrap values
  | error e => exact l.fits_nothing

theorem fits_reply (w : Walker σ) (l : Lookup) (state : σ) :
    l.Fits (l.reply (l.answer w state).1) := by
  by_cases hleaf : l.leaf = .columns
  · have hwrap (cs : List Column) : l.Fits (.columns cs) := hleaf
    cases l with
    | columns catalog schema table => exact fits_listing hwrap _
    | _ => cases hleaf
  · have hwrap (ns : List String) : l.Fits (.names ns) := hleaf
    cases l with
    | columns catalog schema table => exact absurd rfl hleaf
    | catalogs => exact fits_listing hwrap _
    | schemas catalog => exact fits_listing hwrap _
    | tables catalog schema => exact fits_listing hwrap _

theorem load_put {found : Listing} (h : l.Fits found) (store : Store) :
    l.load (store.put l.path found.json) = .ok (some found) := by
  cases found with
  | names ns =>
    have hload : (store.put l.path (Listing.names ns).json).load Codec.string.list l.path =
        .ok (some ns) := Store.load_save (keeps_string _).list store l.path ns
    unfold load
    split
    · rename_i hleaf
      exact absurd hleaf h
    · rw [hload]
      rfl
  | columns cs =>
    have hload : (store.put l.path (Listing.columns cs).json).load Column.codec.list l.path =
        .ok (some cs) := Store.load_save (keeps_column _).list store l.path cs
    unfold load
    rw [show l.leaf = .columns from h]
    simp only [hload]
    rfl

theorem load_of_find {store other : Store} (h : store.find l.path = other.find l.path) :
    l.load store = l.load other := by
  simp only [load, Store.load, h]

theorem load_of_vacant {store : Store} (h : store.find l.path = .ok none) :
    l.load store = .ok none := by
  unfold load
  rw [Store.load_of_find _ h, Store.load_of_find _ h]
  split <;> rfl

theorem not_loads_of_find {store : Store} (h : store.find l.path = .ok none) :
    ¬ l.Loads w store := by
  rintro ⟨-, found, hload⟩
  rw [load_of_vacant h] at hload
  cases hload

/-- Lookups with one key read the same entry in the same way. -/
theorem load_of_key {other : Lookup} (h : l.path.key = other.path.key) (store : Store) :
    l.load store = other.load store := by
  have hpath : l.path = other.path := Path.key_injective l.plain_path other.plain_path h
  have hleaf : l.leaf = other.leaf := congrArg Path.leaf hpath
  unfold load
  rw [hleaf, hpath]

end Lookup

theorem Fetches.load (h : Fetches w l s) :
    l.load (w.list l s).2.store = .ok (some (w.list l s).1) := by
  have hfits : l.Fits (w.list l s).1 := by
    rw [h.value]
    exact l.fits_reply w s.source
  rw [h.store]
  exact Lookup.load_put hfits s.store

end CatalogGraph.Discovery
