import CatalogGraph.Proofs.Namespaces

/-!
# What an invalidation covers

An invalidation removes the entries under the keys that it covers and leaves all others as they are.
In memory, and in a namespace without NUL, it covers the places below the catalog and the catalog
list. A namespace that holds a NUL cannot be searched, so there only the catalog list is covered.
-/

namespace CatalogGraph.Cache

/-! ## Keys below a catalog -/

namespace Path

/-- The places below a catalog are those whose keys start with its root. -/
theorem startsWith_catalogRoot {path : Path} (hpath : path.Plain) (catalog : String) :
    startsWith path.key (catalogRoot catalog) = true ↔ Under [catalog] path := by
  rw [startsWith_iff, toList_key, catalogRoot, String.toList_append]
  obtain ⟨segments, leaf⟩ := path
  cases segments with
  | nil =>
    constructor
    · rintro ⟨rest, hrest⟩
      have hslash : '/' ∈ leaf.text.toList := by
        simp only [keyChars, List.flatMap_nil, List.nil_append] at hrest
        simp [← hrest]
      exact absurd hslash (slash_not_mem_leaf leaf)
    · intro hunder
      exact absurd hunder.length_le (by simp)
  | cons segment segments =>
    have hsegment : '/' ∉ segment.toList := hpath segment List.mem_cons_self
    have hkey : keyChars (segment :: segments) leaf =
        segment.toList ++ '/' :: keyChars segments leaf := by
      simp [keyChars]
    constructor
    · rintro ⟨rest, hrest⟩
      have hsplit : (Name.sanitize catalog).toList ++ '/' :: rest =
          segment.toList ++ '/' :: keyChars segments leaf := by
        simpa [hkey] using hrest
      have heq := (append_separator_injective (slash_not_mem_sanitize catalog) hsegment hsplit).1
      simp [Under, String.toList_injective heq]
    · intro hunder
      have heq : Name.sanitize catalog = segment := by
        simpa [Under, List.cons_prefix_cons] using hunder
      rw [heq, hkey]
      exact ⟨keyChars segments leaf, by simp⟩

end Path

namespace Store

/-! ## Places in a store -/

/-- The namespace of a store, which is none in memory. -/
def space? : Store → Option String
  | .memory _ => none
  | .database _ space => some space

/-- The key that a path has among all keys of a store. -/
def keyOf : Store → Path → String
  | .memory _, path => path.key
  | .database _ space, path => Database.fullKey space path.key

/-- What a store holds under one of all its keys: a value in memory, a text in a database. -/
def held? : Store → String → Option (Json ⊕ String)
  | .memory entries, key => (Dictionary.find? entries key).map .inl
  | .database db _, key => (Dictionary.find? db.rows key).map .inr

theorem space?_put (store : Store) (path : Path) (value : Json) :
    (store.put path value).space? = store.space? := by
  cases store <;> rfl

theorem space?_invalidate (store : Store) (catalog : Option String) :
    (store.invalidate catalog).2.space? = store.space? := by
  cases store <;> cases catalog <;> rfl

/-- Writing at a place leaves what is held under every other key, those of other namespaces
included. -/
theorem held?_put (store : Store) (path : Path) (value : Json) {key : String}
    (h : key ≠ store.keyOf path) : (store.put path value).held? key = store.held? key := by
  cases store with
  | memory entries =>
    have hfind := Dictionary.find?_insert_of_ne entries value h
    exact congrArg (Option.map Sum.inl) hfind
  | database db space =>
    have hfind := Dictionary.find?_insert_of_ne db.rows value.compact h
    exact congrArg (Option.map Sum.inr) hfind

/-! ## Coverage -/

/-- Whether clearing the keys that start with a text removes a key. -/
def reaches (space? : Option String) (start key : String) : Bool :=
  match space? with
  | none => startsWith key start
  | some space => Database.finds (Database.fullKey space start) (Database.fullKey space key)

/-- Whether an invalidation removes a key. -/
def covers (space? : Option String) (catalog : Option String) (key : String) : Bool :=
  match catalog with
  | none => reaches space? "" key
  | some catalog => reaches space? (Path.catalogRoot catalog) key || key == Path.catalogs.key

theorem find_clear (store : Store) (start : String) (path : Path) :
    (store.clear start).find path =
      if reaches store.space? start path.key then .ok none else store.find path := by
  cases store with
  | memory entries =>
    simp only [find, clear, reaches, space?]
    rw [Dictionary.find?_filter _ fun key => !startsWith key start]
    by_cases h : startsWith path.key start = true <;> simp [h]
  | database db space =>
    simp only [find, clear, reaches, space?, Database.find?_clear]
    by_cases h :
        Database.finds (Database.fullKey space start) (Database.fullKey space path.key) = true
    · simp [h]
    · simp [h]

theorem find_erase (store : Store) (path other : Path) :
    (store.erase path).find other =
      if other.key = path.key then .ok none else store.find other := by
  cases store with
  | memory entries =>
    simp only [find, erase, Dictionary.find?_erase]
    split <;> rfl
  | database db space =>
    simp only [find, erase, Database.find?, Database.erase, Dictionary.find?_erase]
    by_cases h : other.key = path.key
    · simp [h]
    · have hfull : Database.fullKey space other.key ≠ Database.fullKey space path.key :=
        fun e => h (fullKey_injective e)
      simp [h, hfull]

/-- An invalidation removes what it covers, and nothing else. -/
theorem find_invalidate (store : Store) (catalog : Option String) (path : Path) :
    (store.invalidate catalog).2.find path =
      if covers store.space? catalog path.key then .ok none else store.find path := by
  cases catalog with
  | none => exact store.find_clear "" path
  | some catalog =>
    simp only [invalidate, covers, find_erase, find_clear, Bool.or_eq_true, beq_iff_eq]
    by_cases hkey : path.key = Path.catalogs.key <;> simp [hkey]

/-- The namespace can be searched: it holds no NUL. -/
def Searchable (space? : Option String) : Prop :=
  ∀ space, space? = some space → '\x00' ∉ space.toList

theorem reaches_eq {space? : Option String} (h : Searchable space?) (names : List String)
    (leaf : Leaf) (start : String) :
    reaches space? start (Path.below names leaf).key =
      startsWith (Path.below names leaf).key start := by
  cases space? with
  | none => rfl
  | some space => exact Database.finds_fullKey (h space rfl) (Path.nul_not_mem_key names leaf) start

/-- Where the namespace can be searched, everything is covered if no catalog is named, and else the
catalog list and the places below the catalog. -/
theorem covers_iff {space? : Option String} (h : Searchable space?) (catalog : Option String)
    (names : List String) (leaf : Leaf) :
    covers space? catalog (Path.below names leaf).key = true ↔
      ∀ name, catalog = some name →
        Path.below names leaf = .catalogs ∨ Path.Under [name] (Path.below names leaf) := by
  cases catalog with
  | none => simp [covers, reaches_eq h, startsWith]
  | some catalog =>
    have hplain := Path.plain_below names leaf
    have hkey : (Path.below names leaf).key = Path.catalogs.key ↔
        Path.below names leaf = .catalogs :=
      ⟨Path.key_injective hplain (Path.plain_below [] .catalogs), fun e => by rw [e]⟩
    simp only [covers, reaches_eq h, Bool.or_eq_true, Path.startsWith_catalogRoot hplain,
      beq_iff_eq, hkey, Option.some.injEq, forall_eq']
    exact or_comm

example :
    covers none (some "hive-2") (Path.tables "hive_U002D_2" "sales").key = true ∧
      covers none (some "hive") (Path.tables "hive-2" "sales").key = false := by
  decide +kernel

end Store

end CatalogGraph.Cache
