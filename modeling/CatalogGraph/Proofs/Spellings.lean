import CatalogGraph.Proofs.Lookups

/-!
# Spellings of names in the cache

The key of a list is made of rewritten names, the request of restored ones, and columns carry the
names by which they were asked for. So a list from the cache is the list of the first call with its
key (`cached_as_first`): it is the list that the source would give if the two calls ask the same of
the source, and it carries the names of the first call. The calls ask the same if their names are
valid or are left alone by restoring; a name with the text of a token that is not valid shares its
key with a name that stands for something else (`schemas_share_key`).
-/

namespace CatalogGraph

namespace Name

theorem restore_of_settled {name : String} (h : isValid name = true ∨ restore name = name) :
    restore name = restore (sanitize name) := by
  by_cases hvalid : isValid name = true
  · rw [sanitize_of_isValid hvalid]
  · rw [restore_sanitize hvalid]
    exact h.resolve_left hvalid

end Name

namespace Discovery

open Cache

variable {σ : Type}

/-! ## Sources that do not change -/

/-- Whatever the source was asked before, it gives the same answers; `kept` holds of its states. -/
structure Unchanging (source : Source σ) (kept : σ → Prop) : Prop where
  catalogs : ∀ {s t}, kept s → kept t →
    (source.catalogs s).1 = (source.catalogs t).1 ∧ kept (source.catalogs s).2
  schemas : ∀ {s t} catalog, kept s → kept t →
    (source.schemas catalog s).1 = (source.schemas catalog t).1 ∧ kept (source.schemas catalog s).2
  tables : ∀ {s t} catalog schema, kept s → kept t →
    (source.tables catalog schema s).1 = (source.tables catalog schema t).1 ∧
      kept (source.tables catalog schema s).2
  columns : ∀ {s t} catalog schema table, kept s → kept t →
    (source.columns catalog schema table s).1 = (source.columns catalog schema table t).1 ∧
      kept (source.columns catalog schema table s).2

variable {w : Walker σ} {kept : σ → Prop} {state : σ} {l other : Lookup}

/-- What the walker hands out where it does not read the cache. -/
def Lookup.direct (w : Walker σ) (state : σ) (l : Lookup) : Listing :=
  l.reply (l.answer w state).1

theorem Unchanging.answer (h : Unchanging w.source kept) {s t : σ} (hs : kept s) (ht : kept t)
    (l : Lookup) :
    (l.answer w s).1 = (l.answer w t).1 ∧ kept (l.answer w s).2 := by
  cases l with
  | catalogs =>
    obtain ⟨hsame, hkept⟩ := h.catalogs hs ht
    exact ⟨by simp only [Lookup.answer, Lookup.listing, Lookup.spelled, hsame], hkept⟩
  | schemas catalog =>
    obtain ⟨hsame, hkept⟩ := h.schemas (Name.restore catalog) hs ht
    exact ⟨by simp only [Lookup.answer, Lookup.listing, Lookup.spelled, hsame], hkept⟩
  | tables catalog schema =>
    obtain ⟨hsame, hkept⟩ := h.tables (Name.restore catalog) (Name.restore schema) hs ht
    exact ⟨by simp only [Lookup.answer, Lookup.listing, Lookup.spelled, hsame], hkept⟩
  | columns catalog schema table =>
    obtain ⟨hsame, hkept⟩ := h.columns (Name.restore catalog) (Name.restore schema)
      (Name.restore table) hs ht
    exact ⟨by simp only [Lookup.answer, Lookup.listing, Lookup.described, hsame], hkept⟩

/-! ## The first call with a key -/

/-- The first of the lookups with a key. -/
def firstOf (lookups : List Lookup) (key : String) : Option Lookup :=
  lookups.find? fun l => l.path.key == key

/-- Where the source is unchanged, the cache holds the list of the first lookup with each key, and
nothing under the other keys. -/
structure Remembers (w : Walker σ) (kept : σ → Prop) (state : σ) (lookups : List Lookup)
    (s : Session σ) : Prop where
  source : kept s.source
  held : ∀ {l first : Lookup}, firstOf lookups l.path.key = some first →
    l.load s.store = .ok (some (first.direct w state))
  missing : ∀ {l : Lookup}, firstOf lookups l.path.key = none → s.store.find l.path = .ok none

theorem firstOf_append (lookups more : List Lookup) (key : String) :
    firstOf (lookups ++ more) key = (firstOf lookups key).or (firstOf more key) :=
  List.find?_append

theorem firstOf_cons_self (l : Lookup) (lookups : List Lookup) :
    firstOf (l :: lookups) l.path.key = some l := by
  simp [firstOf]

theorem firstOf_snoc (lookups : List Lookup) (l : Lookup) (key : String) :
    firstOf (lookups ++ [l]) key =
      (firstOf lookups key).or (if l.path.key = key then some l else none) := by
  rw [firstOf_append]
  by_cases h : l.path.key = key <;> simp [firstOf, h]

theorem Remembers.of_held {lookups : List Lookup} {s : Session σ} {l first : Lookup}
    (hs : Remembers w kept state lookups s) (hfirst : firstOf lookups l.path.key = some first)
    (events : List Event) : Remembers w kept state (lookups ++ [l]) { s with events } := by
  have hsame (key : String) : firstOf (lookups ++ [l]) key = firstOf lookups key := by
    rw [firstOf_snoc]
    by_cases hkey : l.path.key = key
    · rw [← hkey, hfirst]
      rfl
    · rw [if_neg hkey, Option.or_none]
  refine ⟨hs.source, ?_, ?_⟩
  · intro other found hfound
    rw [hsame] at hfound
    exact hs.held hfound
  · intro other hnone
    rw [hsame] at hnone
    exact hs.missing hnone

theorem Remembers.of_fetched {lookups : List Lookup} {s t : Session σ} {l : Lookup}
    (hs : Remembers w kept state lookups s) (hfirst : firstOf lookups l.path.key = none)
    (hsource : kept t.source) (hload : l.load t.store = .ok (some (l.direct w state)))
    (hother : ∀ {path : Path}, path.key ≠ l.path.key → t.store.find path = s.store.find path) :
    Remembers w kept state (lookups ++ [l]) t := by
  refine ⟨hsource, ?_, ?_⟩
  · intro other found hfound
    rw [firstOf_snoc] at hfound
    by_cases hkey : l.path.key = other.path.key
    · rw [← hkey, hfirst, if_pos rfl] at hfound
      obtain rfl := Option.some.inj hfound
      rw [← Lookup.load_of_key hkey, hload]
    · rw [if_neg hkey, Option.or_none] at hfound
      rw [Lookup.load_of_find (hother (Ne.symm hkey))]
      exact hs.held hfound
  · intro other hnone
    rw [firstOf_snoc] at hnone
    by_cases hkey : l.path.key = other.path.key
    · rw [← hkey, hfirst, if_pos rfl] at hnone
      cases hnone
    · rw [if_neg hkey, Option.or_none] at hnone
      rw [hother (Ne.symm hkey)]
      exact hs.missing hnone

/-- One lookup: the list of the first one with its key, which is the lookup itself if there was
none before. -/
theorem Remembers.list (h : Unchanging w.source kept) (hstate : kept state)
    (hcache : w.options.useCache = true) {lookups : List Lookup} {s : Session σ}
    (hs : Remembers w kept state lookups s) (l : Lookup) :
    (w.list l s).1 = ((firstOf lookups l.path.key).getD l).direct w state ∧
      Remembers w kept state (lookups ++ [l]) (w.list l s).2 := by
  cases hfirst : firstOf lookups l.path.key with
  | some first =>
    obtain ⟨events, hrun⟩ := list_of_loads (w := w) hcache (hs.held hfirst)
    rw [hrun]
    exact ⟨rfl, hs.of_held hfirst events⟩
  | none =>
    have hfetches := list_of_not_loads (Lookup.not_loads_of_find (w := w) (hs.missing hfirst))
    obtain ⟨hanswer, hkept⟩ := h.answer hs.source hstate l
    have hvalue : (w.list l s).1 = l.direct w state := by
      rw [hfetches.value, hanswer]
      rfl
    refine ⟨hvalue, hs.of_fetched hfirst ?_ ?_ ?_⟩
    · rw [hfetches.source]
      exact hkept
    · rw [← hvalue]
      exact hfetches.load
    · intro path hkey
      rw [hfetches.store]
      exact s.store.find_put_of_ne _ hkey

/-- Lookups one after the other return the lists of the first ones with their keys. -/
theorem Remembers.listAll (h : Unchanging w.source kept) (hstate : kept state)
    (hcache : w.options.useCache = true) {earlier : List Lookup} (lookups : List Lookup)
    {s : Session σ} (hs : Remembers w kept state earlier s) :
    (lookups.mapM w.list s).1 = lookups.map fun l =>
      ((firstOf (earlier ++ lookups) l.path.key).getD l).direct w state := by
  induction lookups generalizing earlier s with
  | nil => rfl
  | cons l lookups ih =>
    obtain ⟨hvalue, hnext⟩ := hs.list h hstate hcache l
    have hrest := ih hnext
    rw [mapM_cons_run, hvalue, hrest, List.map_cons, List.append_assoc, List.singleton_append,
      firstOf_append, firstOf_cons_self]
    cases firstOf earlier l.path.key <;> rfl

/-- Where the cache is not read, every lookup returns its own list. -/
theorem listAll_direct (h : Unchanging w.source kept) (hstate : kept state)
    (hcache : w.options.useCache = false) (lookups : List Lookup) {s : Session σ}
    (hs : kept s.source) : (lookups.mapM w.list s).1 = lookups.map (Lookup.direct w state) := by
  induction lookups generalizing s with
  | nil => rfl
  | cons l lookups ih =>
    have hfetches := list_of_not_loads (not_loads_of_not_useCache hcache l s.store)
    obtain ⟨hanswer, hkept⟩ := h.answer hs hstate l
    have hrest := ih (s := (w.list l s).2) (by rwa [hfetches.source])
    rw [mapM_cons_run, hrest, hfetches.value, hanswer]
    rfl

/-! ## Names that stand for one thing -/

namespace Lookup

/-- Every name is valid, or it is left alone by restoring. -/
def Settled (l : Lookup) : Prop :=
  ∀ name ∈ l.names, Name.isValid name = true ∨ Name.restore name = name

theorem restore_names (h : l.Settled) :
    l.names.map Name.restore = (l.names.map Name.sanitize).map Name.restore := by
  rw [List.map_map]
  apply List.map_congr_left
  intro name hname
  exact Name.restore_of_settled (h name hname)

/-- Lookups with settled names that share a key have the same names of the engine. -/
theorem raw_of_key (hl : l.Settled) (hother : other.Settled)
    (hkey : l.path.key = other.path.key) :
    l.leaf = other.leaf ∧ l.names.map Name.restore = other.names.map Name.restore := by
  have hpath : l.path = other.path := Path.key_injective l.plain_path other.plain_path hkey
  refine ⟨congrArg Path.leaf hpath, ?_⟩
  have hsegments : l.names.map Name.sanitize = other.names.map Name.sanitize :=
    congrArg Path.segments hpath
  rw [restore_names hl, restore_names hother, hsegments]

theorem request_of_raw (hleaf : l.leaf = other.leaf)
    (hraw : l.names.map Name.restore = other.names.map Name.restore) :
    l.request = other.request := by
  cases l <;> cases other <;> simp_all [leaf, names, request]

theorem direct_of_raw (hleaf : l.leaf = other.leaf)
    (hraw : l.names.map Name.restore = other.names.map Name.restore) (hnames : l.leaf ≠ .columns) :
    l.direct w state = other.direct w state := by
  cases l <;> cases other <;> simp_all [leaf, names, direct, answer, reply, nothing]

/-- Columns that are asked for with the same names of the engine are the same, each under the names
of its own call. -/
theorem columns_of_raw {a b c a' b' c' : String}
    (hraw : [a, b, c].map Name.restore = [a', b', c'].map Name.restore) :
    ∃ ds : List ColumnDescription,
      (columns a b c).direct w state =
        .columns (ds.map fun d => ⟨a, b, c, w.spell d.name, d.nativeType⟩) ∧
      (columns a' b' c').direct w state =
        .columns (ds.map fun d => ⟨a', b', c', w.spell d.name, d.nativeType⟩) := by
  simp only [List.map_cons, List.map_nil, List.cons.injEq, and_true] at hraw
  obtain ⟨ha, hb, hc⟩ := hraw
  simp only [direct, answer, ← ha, ← hb, ← hc]
  obtain ⟨given, next⟩ := w.source.columns (Name.restore a) (Name.restore b) (Name.restore c) state
  cases given with
  | ok ds => exact ⟨ds, rfl, rfl⟩
  | error e => exact ⟨[], rfl, rfl⟩

end Lookup

/-! ## Lists from the cache -/

/-- The walker that does not read its cache. -/
def Walker.withoutCache (w : Walker σ) : Walker σ :=
  ⟨w.source, ⟨w.options.replaceInvalid, false⟩⟩

theorem direct_withoutCache (w : Walker σ) (state : σ) (l : Lookup) :
    l.direct w.withoutCache state = l.direct w state := by
  cases l <;> rfl

/-- The lists that lookups return one after the other, from an empty cache and a source that does
not change. -/
structure FirstSpelling (w : Walker σ) (s : Session σ) (lookups : List Lookup) : Prop where
  /-- Each is the list that the first lookup with its key returns without a cache. -/
  first : (lookups.mapM w.list s).1 = lookups.map fun l =>
    ((firstOf lookups l.path.key).getD l).direct w.withoutCache s.source
  /-- Lookups with settled names that share a key ask the source for the same. -/
  request : ∀ {l other : Lookup}, l.Settled → other.Settled → l.path.key = other.path.key →
    l.request = other.request
  /-- Without a cache, columns carry the names by which they are asked for, and are the same
  columns where lookups with settled names share a key. -/
  columns : ∀ {a b c a' b' c' : String}, (Lookup.columns a b c).Settled →
    (Lookup.columns a' b' c').Settled →
    (Lookup.columns a b c).path.key = (Lookup.columns a' b' c').path.key →
    ∃ ds : List ColumnDescription,
      (Lookup.columns a b c).direct w.withoutCache s.source =
        .columns (ds.map fun d => ⟨a, b, c, w.spell d.name, d.nativeType⟩) ∧
      (Lookup.columns a' b' c').direct w.withoutCache s.source =
        .columns (ds.map fun d => ⟨a', b', c', w.spell d.name, d.nativeType⟩)
  /-- If all names are settled, and columns of a table are asked for in one spelling, the lists are
  those that are returned where the cache is not read. -/
  transparent : (∀ l ∈ lookups, l.Settled) →
    (∀ l ∈ lookups, ∀ other ∈ lookups, l.leaf = .columns → l.path.key = other.path.key →
      l = other) →
    (lookups.mapM w.list s).1 = (lookups.mapM w.withoutCache.list s).1

theorem cached_as_first {s : Session σ} (h : Unchanging w.source kept) (hs : kept s.source)
    (hvacant : s.store.Vacant) (hcache : w.options.useCache = true) (lookups : List Lookup) :
    FirstSpelling w s lookups := by
  have hstart : Remembers w kept s.source [] s :=
    ⟨hs, fun hfirst => (nomatch hfirst), fun _ => hvacant _⟩
  have hfirst := hstart.listAll h hs hcache lookups
  refine ⟨?_, ?_, ?_, ?_⟩
  · simp only [direct_withoutCache]
    exact hfirst
  · intro l other hl hother hkey
    obtain ⟨hleaf, hraw⟩ := Lookup.raw_of_key hl hother hkey
    exact Lookup.request_of_raw hleaf hraw
  · intro a b c a' b' c' hl hother hkey
    exact Lookup.columns_of_raw (w := w.withoutCache) (Lookup.raw_of_key hl hother hkey).2
  · intro hsettled hspelling
    have hdirect := listAll_direct (w := w.withoutCache) h hs rfl lookups hs
    rw [hfirst, hdirect]
    apply List.map_congr_left
    intro l hl
    rw [direct_withoutCache, List.nil_append]
    cases hfound : firstOf lookups l.path.key with
    | none => rfl
    | some first =>
      have hkey : first.path.key = l.path.key := by
        have htrue := List.find?_some hfound
        simpa using htrue
      have hmem : first ∈ lookups := List.mem_of_find?_eq_some hfound
      change first.direct w s.source = l.direct w s.source
      by_cases hleaf : l.leaf = .columns
      · rw [hspelling l hl first hmem hleaf hkey.symm]
      · obtain ⟨hsame, hraw⟩ := Lookup.raw_of_key (hsettled l hl) (hsettled first hmem) hkey.symm
        exact (Lookup.direct_of_raw hsame hraw hleaf).symm

namespace Fixture

theorem unchanging (f : Fixture) : Unchanging source (· = f) where
  catalogs hs ht := by rw [hs, ht]; exact ⟨rfl, rfl⟩
  schemas catalog hs ht := by rw [hs, ht]; exact ⟨rfl, rfl⟩
  tables catalog schema hs ht := by rw [hs, ht]; exact ⟨rfl, rfl⟩
  columns catalog schema table hs ht := by rw [hs, ht]; exact ⟨rfl, rfl⟩

/-- A catalog that is a minus, in both spellings: schemas are listed alike, and columns are listed
in one spelling. -/
theorem cached_as_first_minus :
    let f : Fixture := ⟨[("-", [("s", [("t", [⟨"a", "integer"⟩])])])], [], []⟩
    let s : Session Fixture := Session.start f Store.empty
    let lookups : List Lookup :=
      [.schemas "-", .schemas "_U002D_", .columns "_U002D_" "s" "t", .columns "_U002D_" "s" "t"]
    Unchanging source (· = f) ∧ s.source = f ∧ s.store.Vacant ∧
      (walker ⟨true, true⟩).options.useCache = true ∧
      (∀ l ∈ lookups, l.Settled) ∧ FirstSpelling (walker ⟨true, true⟩) s lookups := by
  intro f s lookups
  have hsource := f.unchanging
  have hstate : (fun g : Fixture => g = f) s.source := rfl
  have hvacant : s.store.Vacant := Store.vacant_empty
  have hsettled : ∀ l ∈ lookups, l.Settled := by
    have hname : ∀ name ∈ ["-", "_U002D_", "s", "t"],
        Name.isValid name = true ∨ Name.restore name = name := by decide +kernel
    intro l hl name hmem
    apply hname
    simp only [lookups, List.mem_cons, List.not_mem_nil, or_false] at hl
    rcases hl with rfl | rfl | rfl | rfl <;> simp_all [Lookup.names]
  exact ⟨hsource, rfl, hvacant, rfl, hsettled, cached_as_first hsource hstate hvacant rfl lookups⟩

/-- Columns from the cache carry the spelling of the first call, and schemas from the cache may be
those of another catalog. -/
theorem spellings_share_key :
    let f : Fixture := ⟨[("-", [("s", [("t", [⟨"a", "integer"⟩])])]),
      ("a-A", [("s", [])]), ("a-_U0041_", [("z", [])])], [], []⟩
    let s : Session Fixture := Session.start f Store.empty
    let columns : List Lookup := [.columns "-" "s" "t", .columns "_U002D_" "s" "t"]
    let schemas : List Lookup := [.schemas "a-_U0041_", .schemas "a_U002D__U005F_U0041_"]
    (columns.mapM (walker ⟨false, true⟩).list s).1 =
        [.columns [⟨"-", "s", "t", "a", "integer"⟩], .columns [⟨"-", "s", "t", "a", "integer"⟩]] ∧
      (columns.mapM (walker ⟨false, false⟩).list s).1 =
        [.columns [⟨"-", "s", "t", "a", "integer"⟩],
          .columns [⟨"_U002D_", "s", "t", "a", "integer"⟩]] ∧
      (schemas.mapM (walker ⟨false, true⟩).list s).1 = [.names ["s"], .names ["s"]] ∧
      (schemas.mapM (walker ⟨false, false⟩).list s).1 = [.names ["s"], .names ["z"]] := by
  intro f s columns schemas
  refine ⟨?_, ?_, ?_, ?_⟩ <;> decide +kernel

end Fixture

end Discovery

end CatalogGraph
