import CatalogGraph.Proofs.Handles
import CatalogGraph.Proofs.Invalidation

/-!
# What an invalidation removes

An invalidation is judged here by all that a store holds, the rows of other namespaces included. In
every store that was filled through paths it removes the catalog list and the places below the
catalog, counts them, and leaves the rest as it is (`invalidation_exact`). The exception is a
namespace that holds a NUL: no search finds its rows, so only the catalog list is removed.

Clearing works on the texts of keys, so a store could hold keys that are cleared although no path
has them. `Written` excludes this, and every step by which a store is filled keeps it.
-/

namespace CatalogGraph.Cache

/-! ## Keys of paths -/

namespace Path

/-- Two paths have the same key where they have the same leaf and their names are rewritten to the
same segments. -/
theorem key_below_eq_iff {names names' : List String} {leaf leaf' : Leaf} :
    (below names leaf).key = (below names' leaf').key ↔
      leaf = leaf' ∧ names.map Name.sanitize = names'.map Name.sanitize := by
  constructor
  · intro hkey
    have heq := key_injective (plain_below names leaf) (plain_below names' leaf') hkey
    exact ⟨congrArg Path.leaf heq, congrArg Path.segments heq⟩
  · rintro ⟨rfl, hnames⟩
    rw [below, hnames]
    rfl

/-- The path is forgotten with a catalog: it is the catalog list, or leads through the catalog. -/
def ForgottenWith (catalog : String) (path : Path) : Prop := path = .catalogs ∨ Under [catalog] path

end Path

namespace Database

theorem finds_of_nul_mem {start : String} (h : '\x00' ∈ start.toList) (key : String) :
    finds start key = false := by
  rw [Bool.eq_false_iff]
  intro hfinds
  unfold finds at hfinds
  rw [← eq_of_beq hfinds] at h
  -- What is compared ends before the first NUL of the key.
  have hnul := List.mem_takeWhile_imp (List.mem_of_mem_take h)
  simp at hnul

/-- No place has a key in the other namespace that is looked through for this one. -/
def Apart (space other : String) : Prop :=
  ∀ names leaf, startsWith (fullKey other (Path.below names leaf).key) (fullKey space "") = false

theorem apart_of_ne {space other : String} (hspace : IsNamespace space)
    (hother : IsNamespace other) (hne : other ≠ space) : Apart space other := by
  intro names leaf
  rw [Bool.eq_false_iff]
  intro hstart
  exact hne (eq_of_startsWith_fullKey hspace hother hstart (startsWith_self _))

end Database

namespace Store

/-! ## All that a store holds -/

/-- The keys of all that a store holds. -/
def allKeys : Store → List String
  | .memory entries => Dictionary.keys entries
  | .database db _ => Dictionary.keys db.rows

/-- Whether clearing the keys that start with a text removes one of all keys. -/
def sees : Store → String → String → Bool
  | .memory _, start, key => startsWith key start
  | .database _ space, start, key => Database.finds (Database.fullKey space start) key

/-- The key is looked through for the entries of a store. -/
def Owns : Store → String → Prop
  | .memory _, _ => True
  | .database _ space, key => startsWith key (Database.fullKey space "") = true

theorem keyOf_congr {store other : Store} (h : store.space? = other.space?) (path : Path) :
    store.keyOf path = other.keyOf path := by
  cases store <;> cases other <;> cases h <;> rfl

theorem owns_congr {store other : Store} (h : store.space? = other.space?) (key : String) :
    store.Owns key ↔ other.Owns key := by
  cases store <;> cases other <;> cases h <;> rfl

theorem mem_allKeys_iff {store : Store} {key : String} :
    key ∈ store.allKeys ↔ (store.held? key).isSome = true := by
  cases store with
  | memory entries =>
    rw [allKeys, Dictionary.mem_keys_iff, held?, Option.isSome_map, Option.isSome_iff_exists]
  | database db space =>
    rw [allKeys, Dictionary.mem_keys_iff, held?, Option.isSome_map, Option.isSome_iff_exists]

theorem has_eq_isSome (store : Store) (path : Path) :
    store.has path = (store.held? (store.keyOf path)).isSome := by
  cases store with
  | memory entries => exact Option.isSome_map.symm
  | database db space => exact Option.isSome_map.symm

theorem count_eq_countP (store : Store) (start : String) :
    store.count start = store.allKeys.countP (store.sees start) := by
  cases store with
  | memory entries =>
    rw [allKeys, Dictionary.keys, List.countP_map]
    rfl
  | database db space =>
    rw [allKeys, Dictionary.keys, List.countP_map, List.countP_eq_length_filter]
    rfl

theorem held?_clear (store : Store) (start key : String) :
    (store.clear start).held? key = if store.sees start key then none else store.held? key := by
  cases store with
  | memory entries =>
    simp only [clear, held?, sees]
    rw [Dictionary.find?_filter _ fun key => !startsWith key start]
    by_cases h : startsWith key start = true <;> simp [h]
  | database db space =>
    simp only [clear, held?, sees, Database.clear]
    rw [Dictionary.find?_filter _ fun key => !Database.finds (Database.fullKey space start) key]
    by_cases h : Database.finds (Database.fullKey space start) key = true <;> simp [h]

theorem held?_erase (store : Store) (path : Path) (key : String) :
    (store.erase path).held? key = if key = store.keyOf path then none else store.held? key := by
  cases store with
  | memory entries =>
    simp only [erase, held?, keyOf, Dictionary.find?_erase]
    by_cases h : key = path.key <;> simp [h]
  | database db space =>
    simp only [erase, held?, keyOf, Database.erase, Dictionary.find?_erase]
    by_cases h : key = Database.fullKey space path.key <;> simp [h]

theorem keyOf_clear (store : Store) (start : String) (path : Path) :
    (store.clear start).keyOf path = store.keyOf path := by
  cases store <;> rfl

/-- Whether invalidating a catalog removes one of all keys. -/
def forgets (store : Store) (catalog key : String) : Bool :=
  store.sees (Path.catalogRoot catalog) key || key == store.keyOf .catalogs

theorem held?_invalidate (store : Store) (catalog key : String) :
    (store.invalidate (some catalog)).2.held? key =
      if store.forgets catalog key then none else store.held? key := by
  simp only [invalidate, held?_erase, held?_clear, keyOf_clear, forgets, Bool.or_eq_true,
    beq_iff_eq]
  by_cases hkey : key = store.keyOf .catalogs <;> simp [hkey]

/-- Of keys that are all different, one more has a property where one key is given it besides. -/
theorem countP_or_eq {keys : List String} (hkeys : keys.Nodup) (p : String → Bool)
    (key : String) :
    keys.countP (fun other => p other || other == key) =
      keys.countP p + if key ∈ keys ∧ p key = false then 1 else 0 := by
  induction keys with
  | nil => simp
  | cons first rest ih =>
    obtain ⟨hfirst, hrest⟩ := List.nodup_cons.1 hkeys
    rw [List.countP_cons, List.countP_cons, ih hrest]
    by_cases heq : first = key
    · subst heq
      cases hp : p first <;> simp [hfirst]
    · have hpair : (p first || first == key) = p first := by simp [heq]
      have hmem : key ∈ first :: rest ↔ key ∈ rest := by simp [Ne.symm heq]
      rw [hpair]
      simp only [hmem]
      omega

/-- The number that an invalidation returns is that of the keys that it removes. -/
theorem fst_invalidate {store : Store} (h : store.allKeys.Nodup) (catalog : String) :
    (store.invalidate (some catalog)).1 = store.allKeys.countP (store.forgets catalog) := by
  have hlist : (store.clear (Path.catalogRoot catalog)).has .catalogs = true ↔
      store.keyOf .catalogs ∈ store.allKeys ∧
        store.sees (Path.catalogRoot catalog) (store.keyOf .catalogs) = false := by
    rw [has_eq_isSome, keyOf_clear, held?_clear, mem_allKeys_iff]
    cases store.sees (Path.catalogRoot catalog) (store.keyOf .catalogs) <;> simp
  have hforgets : store.forgets catalog = fun key =>
      store.sees (Path.catalogRoot catalog) key || key == store.keyOf .catalogs := rfl
  rw [hforgets, countP_or_eq h]
  simp only [invalidate, count_eq_countP, hlist]

/-! ## Keys that are seen -/

theorem owns_of_sees {store : Store} {start key : String} (h : store.sees start key = true) :
    store.Owns key := by
  cases store with
  | memory entries => trivial
  | database db space =>
    have hstart := startsWith_iff.1 (Database.startsWith_of_finds h)
    rw [Database.toList_fullKey_append] at hstart
    exact startsWith_iff.2 ((List.prefix_append _ _).trans hstart)

/-- Below a catalog, clearing its root sees the places of the catalog, if the namespace can be
searched at all. -/
theorem sees_keyOf_below {store : Store} {catalog : String} {names : List String} {leaf : Leaf} :
    store.sees (Path.catalogRoot catalog) (store.keyOf (.below names leaf)) = true ↔
      Searchable store.space? ∧ Path.Under [catalog] (.below names leaf) := by
  by_cases hsearch : Searchable store.space?
  · have hreaches := reaches_eq hsearch names leaf (Path.catalogRoot catalog)
    have hsees : store.sees (Path.catalogRoot catalog) (store.keyOf (.below names leaf)) =
        reaches store.space? (Path.catalogRoot catalog) (Path.below names leaf).key := by
      cases store <;> rfl
    rw [hsees, hreaches, Path.startsWith_catalogRoot (Path.plain_below names leaf)]
    exact (and_iff_right hsearch).symm
  · refine iff_of_false ?_ fun h => hsearch h.1
    cases store with
    | memory entries => exact absurd (fun _ h => nomatch h) hsearch
    | database db space =>
      have hnul : '\x00' ∈ space.toList := by
        by_contra hnul
        apply hsearch
        rintro _ ⟨⟩
        exact hnul
      have hstart : '\x00' ∈ (Database.fullKey space (Path.catalogRoot catalog)).toList := by
        unfold Database.fullKey
        split
        · rename_i hempty
          simp [hempty] at hnul
        · simp [hnul]
      simp [sees, Database.finds_of_nul_mem hstart]

/-! ## Operations -/

theorem isSome_of_ite {α : Type} {p : Prop} [Decidable p] {o : Option α}
    (h : (if p then none else o).isSome = true) : o.isSome = true := by
  split at h
  · exact absurd h (by simp)
  · exact h

/-- An operation holds no new key but that of a path that it writes. -/
theorem mem_allKeys_perform {store : Store} {op : Operation} {key : String}
    (h : key ∈ (store.perform op).2.allKeys) :
    key ∈ store.allKeys ∨ ∃ path value, op = .put path value ∧ key = store.keyOf path := by
  rw [mem_allKeys_iff] at h ⊢
  cases op with
  | put path value =>
    by_cases hkey : key = store.keyOf path
    · exact .inr ⟨path, value, rfl, hkey⟩
    · left
      rwa [perform, store.held?_put path value hkey] at h
  | find path => exact .inl h
  | erase path =>
    rw [perform, held?_erase] at h
    exact .inl (isSome_of_ite h)
  | clear start =>
    rw [perform, held?_clear] at h
    exact .inl (isSome_of_ite h)
  | invalidate catalog =>
    left
    cases catalog with
    | none =>
      rw [perform, invalidate, held?_clear] at h
      exact isSome_of_ite h
    | some catalog =>
      rw [perform, held?_invalidate] at h
      exact isSome_of_ite h
  | keys start => exact .inl h
  | stats => exact .inl h

theorem space?_perform (store : Store) (op : Operation) :
    (store.perform op).2.space? = store.space? := by
  cases op with
  | invalidate catalog => exact store.space?_invalidate catalog
  | _ => cases store <;> rfl

theorem ascending_perform {store : Store} (h : store.allKeys.Pairwise (· < ·)) (op : Operation) :
    (store.perform op).2.allKeys.Pairwise (· < ·) := by
  have hclear (store : Store) (h : store.allKeys.Pairwise (· < ·)) (start : String) :
      (store.clear start).allKeys.Pairwise (· < ·) := by
    cases store <;> exact Dictionary.ascending_filter _ h
  have herase (store : Store) (h : store.allKeys.Pairwise (· < ·)) (path : Path) :
      (store.erase path).allKeys.Pairwise (· < ·) := by
    cases store <;> exact Dictionary.ascending_erase _ h
  cases op with
  | put path value => cases store <;> exact Dictionary.ascending_insert _ h
  | erase path => exact herase store h path
  | clear start => exact hclear store h start
  | invalidate catalog =>
    cases catalog with
    | none => exact hclear store h ""
    | some catalog => exact herase _ (hclear store h _) .catalogs
  | find path => exact h
  | keys start => exact h
  | stats => exact h

end Store

/-! ## Stores that are filled through paths -/

def Operation.Places : Operation → Prop
  | .put path _ => ∃ names leaf, path = .below names leaf
  | _ => True

namespace Store

/-- The stores that are reached by operations which write at places below names. A database may be
shared with handles of namespaces that are apart, and it may be closed and opened again. -/
inductive Reached : Store → Prop
  | memory : Reached empty
  | database {db : Database} {space : String} (hrows : Dictionary.Ascending db.rows)
      (hnone : ∀ key ∈ Dictionary.keys db.rows,
        startsWith key (Database.fullKey space "") = false) : Reached (.database db space)
  | perform {store : Store} (h : Reached store) (op : Operation) (hop : op.Places) :
      Reached (store.perform op).2
  | elsewhere {db : Database} {space other : String} (h : Reached (.database db space))
      (hapart : Database.Apart space other) (op : Operation) (hop : op.Places) :
      Reached (.database (((Store.database db other).perform op).2.database?.getD db) space)
  | reopen {db : Database} {space : String} (h : Reached (.database db space)) :
      Reached (.database db.opened space)

theorem Reached.put {store : Store} (h : store.Reached) (names : List String) (leaf : Leaf)
    (value : Json) : (store.put (.below names leaf) value).Reached :=
  h.perform (.put (.below names leaf) value) ⟨names, leaf, rfl⟩

/-- Every key that is looked through for the entries of the store is that of a path. -/
structure Written (store : Store) : Prop where
  ascending : store.allKeys.Pairwise (· < ·)
  own : ∀ key ∈ store.allKeys, store.Owns key →
    ∃ names leaf, key = store.keyOf (.below names leaf)

namespace Written

variable {store : Store}

theorem perform (h : store.Written) {op : Operation} (hop : op.Places) :
    (store.perform op).2.Written where
  ascending := ascending_perform h.ascending op
  own := by
    intro key hkey howns
    have hspace := store.space?_perform op
    rw [owns_congr hspace] at howns
    simp only [keyOf_congr hspace]
    rcases mem_allKeys_perform hkey with hkey | ⟨path, value, rfl, heq⟩
    · exact h.own key hkey howns
    · obtain ⟨names, leaf, rfl⟩ := hop
      exact ⟨names, leaf, heq⟩

theorem elsewhere {db : Database} {space other : String} (h : (database db space).Written)
    (hapart : Database.Apart space other) {op : Operation} (hop : op.Places) :
    (database (((database db other).perform op).2.database?.getD db) space).Written := by
  have hkeys : (database (((database db other).perform op).2.database?.getD db) space).allKeys =
      ((database db other).perform op).2.allKeys := by
    cases op with
    | invalidate catalog => cases catalog <;> rfl
    | _ => rfl
  have hascending : (database db other).allKeys.Pairwise (· < ·) := h.ascending
  refine ⟨?_, ?_⟩
  · rw [hkeys]
    exact ascending_perform hascending op
  · intro key hkey howns
    rw [hkeys] at hkey
    rcases mem_allKeys_perform hkey with hkey | ⟨path, value, rfl, rfl⟩
    · exact h.own key hkey howns
    · obtain ⟨names, leaf, rfl⟩ := hop
      exact absurd howns (Bool.eq_false_iff.1 (hapart names leaf))

theorem reopen {db : Database} {space : String} (h : (database db space).Written) :
    (database db.opened space).Written := by
  have hrows : db.opened.rows = db.rows ∨ db.opened.rows = [] := by
    unfold Database.opened
    split
    · exact .inl rfl
    · split
      · exact .inl rfl
      · exact .inr rfl
  rcases hrows with hrows | hrows
  · have hkeys : (database db.opened space).allKeys = (database db space).allKeys := by
      rw [allKeys, allKeys, hrows]
    exact ⟨hkeys ▸ h.ascending, hkeys ▸ h.own⟩
  · have hkeys : (database db.opened space).allKeys = [] := by
      rw [allKeys, hrows]
      rfl
    exact ⟨hkeys ▸ List.Pairwise.nil, by simp [hkeys]⟩

end Written

theorem Reached.written {store : Store} (h : store.Reached) : store.Written := by
  induction h with
  | memory => exact ⟨List.Pairwise.nil, fun _ h => nomatch h⟩
  | database hrows hnone =>
    refine ⟨hrows, ?_⟩
    intro key hkey howns
    rw [Owns, hnone key hkey] at howns
    exact absurd howns (by decide)
  | perform _ op hop ih => exact ih.perform hop
  | elsewhere _ hapart op hop ih => exact ih.elsewhere hapart hop
  | reopen _ ih => exact ih.reopen

/-! ## Exactness -/

/-- Invalidating the catalog removes what is held at the places that are gone, returns how many
entries it removed, and leaves all else that the store holds as it is. -/
structure Removes (store : Store) (catalog : String) (gone : Path → Prop) : Prop where
  removed : ∀ names leaf, gone (.below names leaf) →
    (store.invalidate (some catalog)).2.held? (store.keyOf (.below names leaf)) = none
  kept : ∀ key, (∀ names leaf, gone (.below names leaf) → key ≠ store.keyOf (.below names leaf)) →
    (store.invalidate (some catalog)).2.held? key = store.held? key
  counted : (store.invalidate (some catalog)).1 =
    store.allKeys.countP fun key => ((store.invalidate (some catalog)).2.held? key).isNone

theorem keyOf_below_inj {store : Store} {names names' : List String} {leaf leaf' : Leaf} :
    store.keyOf (.below names leaf) = store.keyOf (.below names' leaf') ↔
      Path.below names leaf = .below names' leaf' := by
  constructor
  · intro hkey
    apply Path.key_injective (Path.plain_below names leaf) (Path.plain_below names' leaf')
    cases store with
    | memory entries => exact hkey
    | database db space => exact fullKey_injective hkey
  · intro hpath
    rw [hpath]

theorem forgets_keyOf_below {store : Store} {catalog : String} {names : List String} {leaf : Leaf} :
    store.forgets catalog (store.keyOf (.below names leaf)) = true ↔
      Path.below names leaf = .catalogs ∨
        Searchable store.space? ∧ Path.Under [catalog] (.below names leaf) := by
  rw [forgets, Bool.or_eq_true, sees_keyOf_below, beq_iff_eq, Path.catalogs, keyOf_below_inj]
  exact or_comm

theorem Written.removes {store : Store} (h : store.Written) (catalog : String) :
    store.Removes catalog fun path =>
      path = .catalogs ∨ Searchable store.space? ∧ path.Under [catalog] where
  removed names leaf hgone := by
    rw [held?_invalidate, if_pos (forgets_keyOf_below.2 hgone)]
  kept key hkey := by
    rw [held?_invalidate]
    split
    · rename_i hforgets
      symm
      by_contra hheld
      -- What is removed is looked through, so it stands at the key of a path.
      have hmem : key ∈ store.allKeys := mem_allKeys_iff.2 (Option.isSome_iff_ne_none.2 hheld)
      have howns : store.Owns key := by
        rcases Bool.or_eq_true _ _ ▸ hforgets with hsees | hlist
        · exact owns_of_sees hsees
        · exact absurd (eq_of_beq hlist) (hkey [] .catalogs (.inl rfl))
      obtain ⟨names, leaf, rfl⟩ := h.own key hmem howns
      exact hkey names leaf (forgets_keyOf_below.1 hforgets) rfl
    · rfl
  counted := by
    have hdistinct := Sorted.nodup_of_pairwise String.lt_irrefl h.ascending
    rw [fst_invalidate hdistinct]
    apply List.countP_congr
    intro key hkey
    have hsome := mem_allKeys_iff.1 hkey
    rw [held?_invalidate]
    cases store.forgets catalog key with
    | true => simp
    | false => simpa [Option.isSome_iff_ne_none] using hsome

/-- It makes no difference to an invalidation which places are gone at which nothing is held. -/
theorem Removes.of_unheld {store : Store} {catalog : String} {gone gone' : Path → Prop}
    (h : store.Removes catalog gone) (hgone : ∀ path, gone path → gone' path)
    (hunheld : ∀ names leaf, gone' (.below names leaf) →
      gone (.below names leaf) ∨ store.held? (store.keyOf (.below names leaf)) = none) :
    store.Removes catalog gone' where
  removed names leaf hpath := by
    rcases hunheld names leaf hpath with hpath | hnone
    · exact h.removed names leaf hpath
    · rw [held?_invalidate, hnone]
      split <;> rfl
  kept key hkey := h.kept key fun names leaf hpath => hkey names leaf (hgone _ hpath)
  counted := h.counted

/-- In every store that was filled through paths the key of a path tells its leaf and its segments,
and an invalidation removes the catalog list and, where the namespace can be searched, the places
below the catalog. So it removes exactly what is forgotten with the catalog unless the namespace
holds a NUL and something is held below the catalog. -/
theorem invalidation_exact {store : Store} (h : store.Reached) (catalog : String) :
    (∀ names names' leaf leaf', (Path.below names leaf).key = (Path.below names' leaf').key ↔
      leaf = leaf' ∧ names.map Name.sanitize = names'.map Name.sanitize) ∧
    store.Removes catalog (fun path =>
      path = .catalogs ∨ Searchable store.space? ∧ path.Under [catalog]) ∧
    (store.Removes catalog (Path.ForgottenWith catalog) ↔
      Searchable store.space? ∨ ∀ names leaf, Path.Under [catalog] (.below names leaf) →
        store.held? (store.keyOf (.below names leaf)) = none) := by
  have hremoves := h.written.removes catalog
  refine ⟨fun _ _ _ _ => Path.key_below_eq_iff, hremoves, ?_, ?_⟩
  · intro hforgotten
    by_cases hsearch : Searchable store.space?
    · exact .inl hsearch
    · right
      intro names leaf hunder
      have hne : Path.below names leaf ≠ .catalogs := by
        intro heq
        rw [heq] at hunder
        exact Path.not_under_below [] catalog .catalogs hunder
      have hkept := hremoves.kept (store.keyOf (.below names leaf)) fun names' leaf' hgone heq => by
        rcases hgone with hlist | ⟨hsearch', -⟩
        · exact hne ((keyOf_below_inj.1 heq).trans hlist)
        · exact hsearch hsearch'
      rw [← hkept]
      exact hforgotten.removed names leaf (.inr hunder)
  · intro hcovered
    refine hremoves.of_unheld (fun path hgone => hgone.imp_right And.right) ?_
    rintro names leaf (hlist | hunder)
    · exact .inl (.inl hlist)
    · rcases hcovered with hsearch | hnone
      · exact .inl (.inr ⟨hsearch, hunder⟩)
      · exact .inr (hnone names leaf hunder)

/-- The lists of a catalog with the name of a leaf go. Those of a longer name stay, and so do those
of another namespace. -/
theorem invalidation_exact_namesakes :
    let filled := (((database .blank "a").put .catalogs (.strings ["catalogs"])).put
      (.schemas "catalogs") (.strings ["s"])).put (.tables "catalogs-2" "s") (.strings ["t"])
    let store := database (((database (filled.database?.getD .blank) "b").put (.schemas "catalogs")
      (.strings ["s"])).database?.getD .blank) "a"
    store.Reached ∧ store.Removes "catalogs" (Path.ForgottenWith "catalogs") ∧
      (store.invalidate (some "catalogs")).1 = 2 ∧
      (store.invalidate (some "catalogs")).2.allKeys =
        ["a:catalogs_U002D_2/s/tables", "b:catalogs/schemas"] := by
  intro filled store
  have hblank : (database .blank "a").Reached :=
    .database List.Pairwise.nil (by simp [Database.blank, Dictionary.keys])
  have hfilled : filled.Reached :=
    ((hblank.put [] .catalogs _).put ["catalogs"] .schemas _).put ["catalogs-2", "s"] .tables _
  have hapart : Database.Apart "a" "b" :=
    Database.apart_of_ne ⟨by decide, by decide, by decide⟩ ⟨by decide, by decide, by decide⟩
      (by decide)
  have hreached : store.Reached :=
    hfilled.elsewhere hapart (.put (.schemas "catalogs") (.strings ["s"]))
      ⟨["catalogs"], .schemas, rfl⟩
  have hsearch : Searchable store.space? := by
    rintro _ ⟨⟩
    decide
  exact ⟨hreached, (invalidation_exact hreached "catalogs").2.2.2 (.inl hsearch),
    by decide +kernel, by decide +kernel⟩

/-- In a namespace that holds a NUL the schemas of a catalog are not removed with it. -/
theorem nul_namespace_kept :
    let store := (database .blank "a\x00b").put (.schemas "hive") (.strings ["s"])
    store.Reached ∧ (store.invalidate (some "hive")).1 = 0 ∧
      (store.invalidate (some "hive")).2.allKeys = store.allKeys ∧
      ¬ store.Removes "hive" (Path.ForgottenWith "hive") := by
  intro store
  have hblank : (database .blank "a\x00b").Reached :=
    .database List.Pairwise.nil (by simp [Database.blank, Dictionary.keys])
  have hreached : store.Reached := hblank.put ["hive"] .schemas _
  refine ⟨hreached, by decide +kernel, by decide +kernel, ?_⟩
  intro hremoves
  have hnone := hremoves.removed ["hive"] .schemas (.inr (List.prefix_refl _))
  have hheld : ((store.invalidate (some "hive")).2.held? (store.keyOf (.schemas "hive"))).isSome =
      true := by
    decide +kernel
  rw [Path.schemas, hnone] at hheld
  exact absurd hheld (by decide)

end Store

end CatalogGraph.Cache
