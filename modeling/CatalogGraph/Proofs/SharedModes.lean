import CatalogGraph.Proofs.Lookups
import CatalogGraph.Proofs.Views

/-!
# Walkers with different options over one cache

A list is kept as the walker spelled it that asked for it, and its key does not tell the spelling.
So every list is handed out in the spelling of the last walker that asked for a list with its key
(`spelled_by_writer`), and a walker that rewrites names hands out raw ones where another walker
wrote them down (`raw_names_shared`).
-/

namespace CatalogGraph.Discovery

open Cache

variable {σ α : Type}

/-! ## Names in lists -/

/-- The names that a list shows: the names themselves, or those of the columns. -/
def Listing.shown : Listing → List String
  | .names ns => ns
  | .columns cs => cs.map Column.name

/-- The names that the source gives to a lookup. -/
def Lookup.given (source : Source σ) : Lookup → σ → List String
  | .catalogs, state => listed (source.catalogs state).1
  | .schemas catalog, state => listed (source.schemas (Name.restore catalog) state).1
  | .tables catalog schema, state =>
    listed (source.tables (Name.restore catalog) (Name.restore schema) state).1
  | .columns catalog schema table, state =>
    (listed (source.columns (Name.restore catalog) (Name.restore schema) (Name.restore table)
      state).1).map ColumnDescription.name

theorem shown_names {l : Lookup} (hnothing : l.nothing = .names []) (w : Walker σ)
    (answer : Answer (List String) × σ) :
    (l.reply (Lookup.listing .names (Lookup.spelled w answer)).1).shown =
      (listed answer.1).map w.spell := by
  obtain ⟨answer, next⟩ := answer
  cases answer with
  | ok names => rfl
  | error e =>
    change l.nothing.shown = []
    rw [hnothing]
    rfl

theorem shown_columns {l : Lookup} (hnothing : l.nothing = .columns []) (w : Walker σ)
    (catalog schema table : String) (answer : Answer (List ColumnDescription) × σ) :
    (l.reply (Lookup.listing .columns (Lookup.described w catalog schema table answer)).1).shown =
      ((listed answer.1).map ColumnDescription.name).map w.spell := by
  obtain ⟨answer, next⟩ := answer
  cases answer with
  | ok ds =>
    change ((ds.map _).map Column.name) = _
    rw [List.map_map, List.map_map]
    rfl
  | error e =>
    change l.nothing.shown = []
    rw [hnothing]
    rfl

/-- A list that is asked for shows the names of the source as the walker spells them. -/
theorem shown_reply (w : Walker σ) (l : Lookup) (state : σ) :
    (l.reply (l.answer w state).1).shown = (l.given w.source state).map w.spell := by
  cases l with
  | catalogs => exact shown_names rfl w _
  | schemas catalog => exact shown_names rfl w _
  | tables catalog schema => exact shown_names rfl w _
  | columns catalog schema table => exact shown_columns rfl w catalog schema table _

theorem isValid_spell_iff (w : Walker σ) (raw : String) :
    Name.isValid (w.spell raw) = true ↔
      if w.options.replaceInvalid then raw ≠ "" else Name.isValid raw = true := by
  unfold Walker.spell
  split
  · exact Name.isValid_sanitize_iff raw
  · exact Iff.rfl

theorem valid_map_spell_iff (w : Walker σ) (raws : List String) :
    (∀ name ∈ raws.map w.spell, Name.isValid name = true) ↔
      if w.options.replaceInvalid then "" ∉ raws else ∀ raw ∈ raws, Name.isValid raw = true := by
  rw [List.forall_mem_map]
  simp only [isValid_spell_iff]
  split
  · constructor
    · intro h hempty
      exact h "" hempty rfl
    · rintro h raw hraw rfl
      exact h hraw
  · exact Iff.rfl

/-! ## Visits -/

/-- What came of a lookup by a walker with the given options: the list, the requests, and the state
of the source before it. -/
structure Visit (σ : Type) where
  options : Options
  lookup : Lookup
  reply : Listing
  asked : List Request
  source : σ

namespace Visit

def key (v : Visit σ) : String := v.lookup.path.key

def walker (source : Source σ) (v : Visit σ) : Walker σ := ⟨source, v.options⟩

/-- The names that the source gave, or would have given, to the visit. -/
def given (source : Source σ) (v : Visit σ) : List String := v.lookup.given source v.source

end Visit

def Source.visit (source : Source σ) (options : Options) (l : Lookup) (s : Session σ) :
    Visit σ × Session σ :=
  let out := (⟨source, options⟩ : Walker σ).list l s
  (⟨options, l, out.1, out.2.requests.drop s.requests.length, s.source⟩, out.2)

/-- Lookups one after the other, each by a walker with its own options. -/
def Source.visitAll (source : Source σ) :
    List (Options × Lookup) → Session σ → List (Visit σ) × Session σ
  | [], s => ([], s)
  | (options, l) :: calls, s =>
    let (v, next) := source.visit options l s
    let (visits, last) := source.visitAll calls next
    (v :: visits, last)

/-- The visit has the key and asked the source, so it wrote its list down. -/
def Visit.writes (key : String) (v : Visit σ) : Bool := v.key == key && !v.asked.isEmpty

/-- The last of the visits that wrote a list under the key. -/
def writer? (visits : List (Visit σ)) (key : String) : Option (Visit σ) :=
  (visits.filter (Visit.writes key)).getLast?

section Writer

variable {visits : List (Visit σ)} {u v : Visit σ} {key : String}

theorem writes_iff : v.writes key = true ↔ v.key = key ∧ v.asked ≠ [] := by
  simp [Visit.writes]

theorem writer?_append_of_writes (h : v.writes key = true) :
    writer? (visits ++ [v]) key = some v := by
  rw [writer?, List.filter_append, List.filter_cons_of_pos h, List.filter_nil]
  exact List.getLast?_concat

theorem writer?_append_of_not (h : ¬ v.writes key = true) :
    writer? (visits ++ [v]) key = writer? visits key := by
  rw [writer?, List.filter_append, List.filter_cons_of_neg h, List.filter_nil, List.append_nil,
    writer?]

theorem writer?_spec (h : writer? visits key = some u) : u ∈ visits ∧ u.writes key = true :=
  List.mem_filter.1 (List.mem_of_getLast? h)

end Writer

/-! ## One visit -/

section Step

variable {source : Source σ} {options : Options} {l : Lookup} {s : Session σ} {start : Store}
  {visits : List (Visit σ)}

theorem visit_of_loads {found : Listing} (hcache : options.useCache = true)
    (h : l.load s.store = .ok (some found)) :
    ∃ events, source.visit options l s =
      (⟨options, l, found, [], s.source⟩, { s with events }) := by
  obtain ⟨events, hrun⟩ := list_of_loads (w := ⟨source, options⟩) hcache h
  refine ⟨events, ?_⟩
  simp only [Source.visit, hrun, List.drop_length]

theorem visit_of_not_loads (h : ¬ l.Loads ⟨source, options⟩ s.store) :
    (source.visit options l s).1 = ⟨options, l,
        l.reply (l.answer ⟨source, options⟩ s.source).1, [l.request], s.source⟩ ∧
      (source.visit options l s).2.store =
        s.store.put l.path (source.visit options l s).1.reply.json ∧
      l.load (source.visit options l s).2.store =
        .ok (some (source.visit options l s).1.reply) := by
  have hfetches := list_of_not_loads h
  refine ⟨?_, hfetches.store, hfetches.load⟩
  simp only [Source.visit, hfetches.value, hfetches.requests, List.drop_left]

theorem asked_of_not_useCache (h : options.useCache = false) :
    (source.visit options l s).1.asked ≠ [] := by
  have hloads := not_loads_of_not_useCache (w := ⟨source, options⟩) h l s.store
  obtain ⟨hvisit, -, -⟩ := visit_of_not_loads hloads
  rw [hvisit]
  exact List.cons_ne_nil _ _

/-- After visits that began with the first cache, the second one holds the lists that were written
last, and is as it was elsewhere. -/
structure Stocked (source : Source σ) (start : Store) (visits : List (Visit σ)) (store : Store) :
    Prop where
  written : ∀ (l : Lookup) u, writer? visits l.path.key = some u →
    l.load store = .ok (some u.reply)
  untouched : ∀ l : Lookup, writer? visits l.path.key = none → l.load store = l.load start
  answered : ∀ u ∈ visits, u.asked ≠ [] →
    u.reply = u.lookup.reply (u.lookup.answer (u.walker source) u.source).1

theorem stocked_nil (source : Source σ) (start : Store) : Stocked source start [] start :=
  ⟨fun _ _ h => (nomatch h), fun _ _ => rfl, fun _ h => (nomatch h)⟩

theorem Stocked.of_silent {store : Store} {v : Visit σ} (h : Stocked source start visits store)
    (hv : v.asked = []) : Stocked source start (visits ++ [v]) store := by
  have hsame (key : String) : writer? (visits ++ [v]) key = writer? visits key := by
    apply writer?_append_of_not
    intro hwrites
    exact (writes_iff.1 hwrites).2 hv
  refine ⟨?_, ?_, ?_⟩
  · intro l u hu
    rw [hsame] at hu
    exact h.written l u hu
  · intro l hnone
    rw [hsame] at hnone
    exact h.untouched l hnone
  · intro u hu hasked
    rcases List.mem_append.1 hu with hu | hu
    · exact h.answered u hu hasked
    · rw [List.mem_singleton.1 hu] at hasked
      exact absurd hv hasked

theorem Stocked.of_written {store next : Store} {v : Visit σ}
    (h : Stocked source start visits store) (hasked : v.asked ≠ [])
    (hreply : v.reply = v.lookup.reply (v.lookup.answer (v.walker source) v.source).1)
    (hload : v.lookup.load next = .ok (some v.reply))
    (hother : ∀ path : Path, path.key ≠ v.key → next.find path = store.find path) :
    Stocked source start (visits ++ [v]) next := by
  have hself {key : String} (hkey : v.key = key) : writer? (visits ++ [v]) key = some v :=
    writer?_append_of_writes (writes_iff.2 ⟨hkey, hasked⟩)
  have helse {key : String} (hkey : v.key ≠ key) :
      writer? (visits ++ [v]) key = writer? visits key := by
    apply writer?_append_of_not
    intro hwrites
    exact hkey (writes_iff.1 hwrites).1
  have hstays {l : Lookup} (hkey : v.key ≠ l.path.key) : l.load next = l.load store :=
    Lookup.load_of_find (hother l.path (Ne.symm hkey))
  refine ⟨?_, ?_, ?_⟩
  · intro l u hu
    by_cases hkey : v.key = l.path.key
    · rw [hself hkey] at hu
      rw [← Lookup.load_of_key hkey next, hload, Option.some.inj hu]
    · rw [helse hkey] at hu
      rw [hstays hkey]
      exact h.written l u hu
  · intro l hnone
    by_cases hkey : v.key = l.path.key
    · rw [hself hkey] at hnone
      cases hnone
    · rw [helse hkey] at hnone
      rw [hstays hkey]
      exact h.untouched l hnone
  · intro u hu huasked
    rcases List.mem_append.1 hu with hu | hu
    · exact h.answered u hu huasked
    · rw [List.mem_singleton.1 hu]
      exact hreply

/-- A list of a stocked cache is the one that was written last under its key, and shows the names
that its writer was given as the writer spells them. -/
theorem Stocked.spelled {store : Store} {found : Listing} {u : Visit σ}
    (h : Stocked source start visits store) (hload : l.load store = .ok (some found))
    (hu : writer? visits l.path.key = some u) :
    found = u.reply ∧ found.shown = (u.given source).map (u.walker source).spell := by
  have hsame : found = u.reply := by
    have hheld := h.written l u hu
    rw [hload] at hheld
    exact Option.some.inj (Except.ok.inj hheld)
  obtain ⟨hmem, hwrites⟩ := writer?_spec hu
  have hreply := h.answered u hmem (writes_iff.1 hwrites).2
  refine ⟨hsame, ?_⟩
  rw [hsame, hreply]
  exact shown_reply (u.walker source) u.lookup u.source

theorem Stocked.valid_iff {store : Store} {found : Listing} {u : Visit σ}
    (h : Stocked source start visits store) (hload : l.load store = .ok (some found))
    (hu : writer? visits l.path.key = some u) :
    (∀ name ∈ found.shown, Name.isValid name = true) ↔
      if u.options.replaceInvalid then "" ∉ u.given source
      else ∀ raw ∈ u.given source, Name.isValid raw = true := by
  obtain ⟨-, hshown⟩ := h.spelled hload hu
  rw [hshown]
  exact valid_map_spell_iff (u.walker source) (u.given source)

/-- A visit keeps the cache stocked, and its own list is held then. -/
theorem Stocked.visit (h : Stocked source start visits s.store) (options : Options) (l : Lookup) :
    Stocked source start (visits ++ [(source.visit options l s).1])
        (source.visit options l s).2.store ∧
      l.load (source.visit options l s).2.store =
        .ok (some (source.visit options l s).1.reply) := by
  by_cases hloads : l.Loads ⟨source, options⟩ s.store
  · obtain ⟨hcache, found, hload⟩ := hloads
    obtain ⟨events, hvisit⟩ : ∃ events, source.visit options l s =
      (⟨options, l, found, [], s.source⟩, { s with events }) := visit_of_loads hcache hload
    rw [hvisit]
    exact ⟨h.of_silent rfl, hload⟩
  · obtain ⟨hvisit, hstore, hload⟩ := visit_of_not_loads hloads
    refine ⟨h.of_written ?_ ?_ ?_ ?_, hload⟩
    · rw [hvisit]
      simp
    · rw [hvisit]
      rfl
    · exact hload
    · intro path hkey
      rw [hstore]
      exact s.store.find_put_of_ne _ hkey

end Step

/-! ## Runs -/

section Run

variable {source : Source σ} {start : Store} {before after earlier : List (Visit σ)} {v : Visit σ}

/-- Every visit of a run begins with a cache that the visits before it have stocked. -/
theorem stocked_visitAll {calls : List (Options × Lookup)} {s : Session σ}
    (h : Stocked source start earlier s.store)
    (hrun : (source.visitAll calls s).1 = before ++ v :: after) :
    ∃ t : Session σ, v = (source.visit v.options v.lookup t).1 ∧
      Stocked source start (earlier ++ before) t.store := by
  -- On the calls, with the visits that were made before them as the accumulator.
  induction calls generalizing earlier before s with
  | nil => simp [Source.visitAll] at hrun
  | cons call calls ih =>
    obtain ⟨options, l⟩ := call
    change (source.visit options l s).1 ::
      (source.visitAll calls (source.visit options l s).2).1 = before ++ v :: after at hrun
    cases before with
    | nil =>
      obtain ⟨hfirst, -⟩ := List.cons.inj hrun
      rw [List.append_nil, ← hfirst]
      exact ⟨s, rfl, h⟩
    | cons first before =>
      obtain ⟨hfirst, hrest⟩ := List.cons.inj hrun
      obtain ⟨hstocked, -⟩ := h.visit options l
      obtain ⟨t, hv, ht⟩ := ih hstocked hrest
      rw [hfirst, List.append_assoc, List.singleton_append] at ht
      exact ⟨t, hv, ht⟩

/-- How the list of a visit is spelled, after the visits before it. -/
structure SpelledByWriter (source : Source σ) (start : Store) (before : List (Visit σ))
    (v : Visit σ) : Prop where
  /-- The list is the last one that was written under its key, and shows the names that its writer
  was given as the writer spells them. -/
  written : ∀ u, writer? (before ++ [v]) v.key = some u →
    v.reply = u.reply ∧ v.reply.shown = (u.given source).map (u.walker source).spell
  /-- So all names are valid exactly if the writer rewrote them, and none was empty, or they are
  valid in the engine. -/
  valid_iff : ∀ u, writer? (before ++ [v]) v.key = some u →
    ((∀ name ∈ v.reply.shown, Name.isValid name = true) ↔
      if u.options.replaceInvalid then "" ∉ u.given source
      else ∀ raw ∈ u.given source, Name.isValid raw = true)
  /-- A list that was not written during the run was in the cache at the start. -/
  held : writer? (before ++ [v]) v.key = none → v.lookup.load start = .ok (some v.reply)
  /-- A walker that asks, as it does where it does not read the cache, is the writer itself. -/
  own : v.options.useCache = false ∨ v.asked ≠ [] → writer? (before ++ [v]) v.key = some v
  /-- From an empty cache, if all lists with the key were written by walkers that rewrite names, all
  names are valid. -/
  honoured : start.Vacant → (∀ u ∈ before ++ [v], u.writes v.key = true →
      u.options.replaceInvalid = true ∧ "" ∉ u.given source) →
    ∀ name ∈ v.reply.shown, Name.isValid name = true

/-- In a run of lookups by walkers with any options over one cache and one source, every list is
spelled by the walker that wrote it. -/
theorem spelled_by_writer (source : Source σ) (s : Session σ) (calls : List (Options × Lookup))
    (hrun : (source.visitAll calls s).1 = before ++ v :: after) :
    SpelledByWriter source s.store before v := by
  obtain ⟨t, hv, hbefore⟩ := stocked_visitAll (stocked_nil source s.store) hrun
  rw [List.nil_append] at hbefore
  obtain ⟨hstocked, hload⟩ := hbefore.visit v.options v.lookup
  rw [← hv] at hstocked hload
  have hheld : writer? (before ++ [v]) v.key = none →
      v.lookup.load s.store = .ok (some v.reply) := by
    intro hnone
    rw [← hstocked.untouched v.lookup hnone, hload]
  refine ⟨?_, ?_, hheld, ?_, ?_⟩
  · intro u hu
    exact hstocked.spelled hload hu
  · intro u hu
    exact hstocked.valid_iff hload hu
  · intro hown
    have hasked : v.asked ≠ [] := by
      rcases hown with hcache | hasked
      · rw [hv]
        exact asked_of_not_useCache hcache
      · exact hasked
    apply writer?_append_of_writes
    exact writes_iff.2 ⟨rfl, hasked⟩
  · intro hvacant hwriters
    cases hu : writer? (before ++ [v]) v.key with
    | none =>
      have hstart := hheld hu
      rw [Lookup.load_of_vacant (hvacant _)] at hstart
      cases hstart
    | some u =>
      obtain ⟨hmem, hwrites⟩ := writer?_spec hu
      obtain ⟨hreplace, hempty⟩ := hwriters u hmem hwrites
      apply (hstocked.valid_iff hload hu).2
      rw [if_pos hreplace]
      exact hempty

end Run

namespace Fixture

/-- Two spellings of a catalog share a key, so a walker that hands out raw names gets the rewritten
ones that were written before. -/
theorem spelled_by_writer_mixed :
    let f : Fixture := ⟨[("a-b", [("s-t", []), ("u", [])])], [], []⟩
    let s : Session Fixture := Session.start f Store.empty
    let calls : List (Options × Lookup) :=
      [(⟨true, true⟩, .schemas "a-b"), (⟨false, true⟩, .schemas "a_U002D_b")]
    ∃ first second, (source.visitAll calls s).1 = [first] ++ second :: [] ∧
      SpelledByWriter source s.store [first] second ∧
      second.options.replaceInvalid = false ∧ second.asked = [] ∧
      second.reply = .names ["s_U002D_t", "u"] := by
  intro f s calls
  refine ⟨_, _, rfl, spelled_by_writer source s calls rfl, rfl, ?_, ?_⟩
  · decide +kernel
  · decide +kernel

/-- A walker that rewrites names hands out a catalog and a column under the names that they have in
the engine, after another walker has written them down like this. -/
theorem raw_names_shared :
    let f : Fixture := ⟨[("a-b", [("s", [("t", [⟨"c-d", "integer"⟩])])])], [], []⟩
    let s : Session Fixture := Session.start f Store.empty
    let lookups : List Lookup := [.catalogs, .columns "a-b" "s" "t"]
    let calls := lookups.map (⟨false, true⟩, ·) ++ lookups.map (⟨true, true⟩, ·)
    let visits := (source.visitAll calls s).1
    (∀ v ∈ visits, "" ∉ v.given source) ∧
      visits.map (fun v => (v.options.replaceInvalid, v.reply.shown)) =
        [(false, ["a-b"]), (false, ["c-d"]), (true, ["a-b"]), (true, ["c-d"])] ∧
      Name.isValid "a-b" = false ∧ Name.isValid "c-d" = false := by
  intro f s lookups calls visits
  refine ⟨?_, ?_, ?_, ?_⟩ <;> decide +kernel

end Fixture

end CatalogGraph.Discovery
