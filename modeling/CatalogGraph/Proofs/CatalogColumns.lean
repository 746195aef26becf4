import CatalogGraph.Proofs.Exposure
import CatalogGraph.Proofs.FixtureTrees
import CatalogGraph.Proofs.Overlap

/-!
# All columns of a catalog

From a store that holds nothing, the columns of a catalog of a fixture are those of its tree: schema
by schema and table by table in key order, each column once. They are the same whatever turns the
lookups of a schema take, and so is the store in the end (`catalogColumns_exact`). The names of the
catalog have to be restored from their spellings; then no two lists are written at one place.
-/

namespace CatalogGraph.Discovery

open Cache Json

variable {σ : Type}

theorem cached?_of_vacant (w : Walker σ) {path : Path} {store : Store}
    (h : store.find path = .ok none) : w.cached? Column.codec path store = none := by
  apply cached?_eq_none
  rintro ⟨-, found, hload⟩
  rw [Store.load_of_find _ h] at hload
  cases hload

theorem key_ne_of_not_under {path : Path} (hpath : path.Plain) {names : List String}
    (h : ¬ Path.Under names path) (more : List String) (leaf : Leaf) :
    path.key ≠ (Path.below (names ++ more) leaf).key := by
  intro hkey
  have heq := Path.key_injective hpath (Path.plain_below _ _) hkey
  exact h (Path.under_of_eq_below heq).of_append

/-- Names that are restored from their spellings are told apart in the cache. -/
theorem eq_of_sanitize_spell (w : Walker σ) {a b : String} (ha : Name.restore (w.spell a) = a)
    (hb : Name.restore (w.spell b) = b)
    (h : Name.sanitize (w.spell a) = Name.sanitize (w.spell b)) : a = b := by
  have hspell : w.spell a = w.spell b := by
    cases hreplace : w.options.replaceInvalid with
    | true => simpa [Walker.spell, hreplace] using h
    | false =>
      simp only [Walker.spell, hreplace, Bool.false_eq_true, if_false] at ha hb h ⊢
      exact Name.sanitize_injective_of_restore ha hb h
  rw [← ha, hspell, hb]

theorem nodup_sanitize_spell (w : Walker σ) {α : Type} {d : Dictionary α}
    (hd : Dictionary.Ascending d) (h : ∀ entry ∈ d, Name.restore (w.spell entry.1) = entry.1) :
    ((d.keys.map w.spell).map Name.sanitize).Nodup := by
  rw [List.map_map]
  have hrestore : ∀ key ∈ d.keys, Name.restore (w.spell key) = key := by
    intro key hkey
    obtain ⟨entry, hentry, rfl⟩ := List.mem_map.1 hkey
    exact h entry hentry
  apply List.Nodup.map_on _ (Sorted.nodup_of_pairwise String.lt_irrefl hd)
  intro a ha b hb heq
  exact eq_of_sanitize_spell w (hrestore a ha) (hrestore b hb) heq

namespace Fixture

variable {f : Fixture} {options : Options} {catalog schema : String} {s : Session Fixture}

/-! ## One schema -/

/-- The columns that are handed out of a schema. -/
def schemaView (f : Fixture) (options : Options) (catalog schema : String) : List Column :=
  ((f.view options).tables catalog schema).flatMap ((f.view options).columns catalog schema)

/-- A store with the lists of a schema: its tables, and the columns of each of them. -/
def schemaStore (f : Fixture) (options : Options) (catalog : String) (store : Store)
    (schema : String) : Store :=
  let tables := (f.view options).tables catalog schema
  recordAll (walker options) f catalog schema
    (store.put (.tables catalog schema) (Listing.names tables).json) tables

theorem outcome_of_vacant {store : Store} {table : String}
    (h : store.find (.columns catalog schema table) = .ok none) :
    outcome (walker options) f catalog schema store table =
      (f.view options).columns catalog schema table := by
  rw [outcome, cached?_of_vacant _ h]
  rfl

/-- Whatever turns the lookups of a schema take, its columns are those of the view, and they are
written below the schema. -/
theorem schemaColumnsIn_eq (hs : s.source = f)
    (hfresh : Fresh s (Path.Under ([catalog] ++ [schema])))
    (hkeys : (((f.view options).tables catalog schema).map Name.sanitize).Nodup)
    (turns : List Nat) :
    Yields ((walker options).schemaColumnsIn turns catalog schema) s
        (f.schemaView options catalog schema) (Path.Under ([catalog] ++ [schema])) ∧
      ((walker options).schemaColumnsIn turns catalog schema s).2.store =
        f.schemaStore options catalog s.store schema := by
  have hplace : Fresh s (· = Path.tables catalog schema) :=
    hfresh.mono fun _ => Path.under_of_eq_below
  have hlist := (shows_view f options).tables s catalog schema hs hplace
  have hfetches : Fetches (walker options) (.tables catalog schema) s :=
    list_of_not_loads (Lookup.not_loads_of_find (hplace _ (Path.plain_below _ _) rfl))
  have hstore : ((walker options).tables catalog schema s).2.store =
      s.store.put (.tables catalog schema)
        (Listing.names ((walker options).tables catalog schema s).1).json := hfetches.store
  rw [hlist.value] at hstore
  have hkept : (fun g : Fixture => g = f) ((walker options).tables catalog schema s).2.source :=
    hlist.source.trans hs
  have hstate : (fun g : Fixture => g = f) f := rfl
  obtain ⟨hvalues, hlast, hsource⟩ :=
    overlapping_eq (w := walker options) f.unchanging hstate hkept hkeys turns
  rw [hstore] at hlast
  have hoverlap : Yields ((walker options).overlapping turns catalog schema
        ((f.view options).tables catalog schema)) ((walker options).tables catalog schema s).2
      (((f.view options).tables catalog schema).map ((f.view options).columns catalog schema))
      (Path.Under ([catalog] ++ [schema])) := by
    refine ⟨?_, hsource.trans hkept.symm, ?_⟩
    · rw [hvalues]
      apply List.map_congr_left
      intro table _
      have hbelow := Schema.fresh_below hlist hfresh table
      exact outcome_of_vacant (hbelow _ (Path.plain_below _ _) (Path.under_of_eq_below rfl))
    · intro path hplain hunder
      rw [hlast, find_recordAll fun table _ => key_ne_of_not_under hplain hunder [table] .columns,
        hstore]
  have hlist' := hlist.mono fun _ => Path.under_of_eq_below
  refine ⟨?_, ?_⟩
  · rw [schemaView, List.flatMap_def]
    exact hlist'.bind (hoverlap.bind (.pure _ _))
  · have hrun : ((walker options).schemaColumnsIn turns catalog schema s).2.store =
        ((walker options).overlapping turns catalog schema
          ((walker options).tables catalog schema s).1
          ((walker options).tables catalog schema s).2).2.store := rfl
    rw [hrun, hlist.value, hlast]
    rfl

/-! ## All schemas -/

/-- Schemas one after the other, each with turns of its own. -/
theorem mapM_schemaColumnsIn_eq {names : List String} (hs : s.source = f)
    (hfresh : ∀ name ∈ names, Fresh s (Path.Under ([catalog] ++ [name])))
    (hnames : (names.map Name.sanitize).Nodup)
    (hkeys : ∀ name ∈ names, (((f.view options).tables catalog name).map Name.sanitize).Nodup)
    (turns : String → List Nat) :
    ((names.mapM fun name => (walker options).schemaColumnsIn (turns name) catalog name) s).1 =
        names.map (f.schemaView options catalog) ∧
      ((names.mapM fun name => (walker options).schemaColumnsIn (turns name) catalog name)
          s).2.store =
        names.foldl (f.schemaStore options catalog) s.store := by
  induction names generalizing s with
  | nil => exact ⟨rfl, rfl⟩
  | cons name rest ih =>
    obtain ⟨hhead, hrest⟩ := List.nodup_cons.1 hnames
    have hne : ∀ other ∈ rest, Name.sanitize name ≠ Name.sanitize other := by
      intro other hother heq
      exact hhead (heq ▸ List.mem_map_of_mem hother)
    obtain ⟨hschema, hstore⟩ := schemaColumnsIn_eq hs (hfresh name List.mem_cons_self)
      (hkeys name List.mem_cons_self) (turns name)
    have hfreshRest : ∀ other ∈ rest, Fresh s (Path.Under ([catalog] ++ [other])) :=
      fun other hother => hfresh other (List.mem_cons_of_mem _ hother)
    obtain ⟨hvalues, hlast⟩ := ih (hschema.source.trans hs)
      (Schema.fresh_of_ne hschema hfreshRest hne) hrest
      fun other hother => hkeys other (List.mem_cons_of_mem _ hother)
    rw [mapM_cons_run, hschema.value, hvalues, hlast, hstore]
    exact ⟨rfl, rfl⟩

/-- The store in which the columns of a catalog were listed: the schemas, and the lists of each of
them. -/
def catalogStore (f : Fixture) (options : Options) (store : Store) (catalog : String) : Store :=
  let schemas := (f.view options).schemas catalog
  schemas.foldl (f.schemaStore options catalog)
    (store.put (.schemas catalog) (Listing.names schemas).json)

theorem catalogColumnsIn_eq (hs : s.source = f) (hvacant : s.store.Vacant)
    (hnames : (((f.view options).schemas catalog).map Name.sanitize).Nodup)
    (hkeys : ∀ name ∈ (f.view options).schemas catalog,
      (((f.view options).tables catalog name).map Name.sanitize).Nodup)
    (turns : String → List Nat) :
    ((walker options).catalogColumnsIn turns catalog s).1 =
        ((f.view options).schemas catalog).flatMap (f.schemaView options catalog) ∧
      ((walker options).catalogColumnsIn turns catalog s).2.store =
        f.catalogStore options s.store catalog := by
  have hfresh : Fresh s (Path.Under [catalog]) := fun path _ _ => hvacant path
  have hlist := (shows_view f options).schemas s catalog hs (fun path _ _ => hvacant path)
  have hfetches : Fetches (walker options) (.schemas catalog) s :=
    list_of_not_loads (Lookup.not_loads_of_find (hvacant _))
  have hstore : ((walker options).schemas catalog s).2.store =
      s.store.put (.schemas catalog)
        (Listing.names ((walker options).schemas catalog s).1).json := hfetches.store
  rw [hlist.value] at hstore
  obtain ⟨hvalues, hlast⟩ := mapM_schemaColumnsIn_eq (hlist.source.trans hs)
    (fun name _ => Schema.fresh_below hlist hfresh name) hnames hkeys turns
  have hrun : (walker options).catalogColumnsIn turns catalog s =
      (((((walker options).schemas catalog s).1.mapM fun name =>
          (walker options).schemaColumnsIn (turns name) catalog name)
          ((walker options).schemas catalog s).2).1.flatten,
        ((((walker options).schemas catalog s).1.mapM fun name =>
          (walker options).schemaColumnsIn (turns name) catalog name)
          ((walker options).schemas catalog s).2).2) := rfl
  rw [hrun, hlist.value, hvalues, hlast, hstore, List.flatMap_def]
  exact ⟨rfl, rfl⟩

/-! ## The columns of the tree -/

/-- The columns of a catalog of the tree, with the names as they are handed out. -/
def columnsBelow (w : Walker Fixture) (catalog : String) (schemas : SchemaTree) : List Column :=
  schemas.flatMap fun (schema, tables) =>
    tables.flatMap fun (table, columns) =>
      columns.map fun d => ⟨catalog, w.spell schema, w.spell table, w.spell d.name, d.nativeType⟩

/-- The names of the catalog are restored from their spellings. -/
structure Restored (w : Walker Fixture) (schemas : SchemaTree) : Prop where
  schemaNames : ∀ entry ∈ schemas, Name.restore (w.spell entry.1) = entry.1
  tableNames : ∀ entry ∈ schemas, ∀ table ∈ entry.2, Name.restore (w.spell table.1) = table.1

section Tree

variable {schemas : SchemaTree} {tables : TableTree} {name table : String}
  {columns : List ColumnDescription}

theorem view_schemas_eq (h : f.catalog (Name.restore catalog) = .ok schemas) :
    (f.view options).schemas catalog = schemas.keys.map (walker options).spell := by
  change listed _ = _
  rw [h]
  rfl

theorem view_tables_eq (h : f.schema (Name.restore catalog) (Name.restore schema) = .ok tables) :
    (f.view options).tables catalog schema = tables.keys.map (walker options).spell := by
  change listed _ = _
  rw [h]
  rfl

theorem view_columns_eq
    (h : f.table (Name.restore catalog) (Name.restore schema) (Name.restore table) = .ok columns) :
    (f.view options).columns catalog schema table =
      (walker options).columnsOf catalog schema table columns := by
  change listed _ = _
  rw [h]
  rfl

variable (hcatalog : f.catalog (Name.restore catalog) = .ok schemas)
  (hordered : Dictionary.AscendingOf Dictionary.Ascending schemas)
  (hnames : Restored (walker options) schemas)

include hcatalog hordered hnames

/-- The spelling of a schema leads back to it. -/
theorem schema_of_restored {entry : String × TableTree} (hentry : entry ∈ schemas) :
    f.schema (Name.restore catalog) (Name.restore ((walker options).spell entry.1)) =
      .ok entry.2 := by
  rw [hnames.schemaNames entry hentry]
  exact schema_eq_ok_iff.2 ⟨schemas, hcatalog, Dictionary.find?_of_mem hordered.ascending hentry⟩

/-- The spelling of a table leads back to it. -/
theorem table_of_restored {entry : String × TableTree} (hentry : entry ∈ schemas)
    {table : String × List ColumnDescription} (htable : table ∈ entry.2) :
    f.table (Name.restore catalog) (Name.restore ((walker options).spell entry.1))
      (Name.restore ((walker options).spell table.1)) = .ok table.2 := by
  rw [hnames.tableNames entry hentry table htable]
  exact table_eq_ok_iff.2 ⟨entry.2, schema_of_restored hcatalog hordered hnames hentry,
    Dictionary.find?_of_mem (hordered.values entry hentry) htable⟩

theorem nodup_view_schemas : (((f.view options).schemas catalog).map Name.sanitize).Nodup := by
  rw [view_schemas_eq hcatalog]
  exact nodup_sanitize_spell _ hordered.ascending hnames.schemaNames

theorem nodup_view_tables : ∀ name ∈ (f.view options).schemas catalog,
    (((f.view options).tables catalog name).map Name.sanitize).Nodup := by
  intro name hname
  rw [view_schemas_eq hcatalog] at hname
  obtain ⟨raw, hraw, rfl⟩ := List.mem_map.1 hname
  obtain ⟨entry, hentry, rfl⟩ := List.mem_map.1 hraw
  rw [view_tables_eq (schema_of_restored hcatalog hordered hnames hentry)]
  exact nodup_sanitize_spell _ (hordered.values entry hentry) (hnames.tableNames entry hentry)

/-- The columns of the view are those of the tree. -/
theorem flatMap_schemaView :
    ((f.view options).schemas catalog).flatMap (f.schemaView options catalog) =
      columnsBelow (walker options) catalog schemas := by
  rw [view_schemas_eq hcatalog, Dictionary.keys, List.map_map, List.flatMap_map, columnsBelow]
  apply List.flatMap_congr
  intro entry hentry
  change f.schemaView options catalog ((walker options).spell entry.1) = _
  rw [schemaView, view_tables_eq (schema_of_restored hcatalog hordered hnames hentry),
    Dictionary.keys, List.map_map, List.flatMap_map]
  apply List.flatMap_congr
  intro table htable
  exact view_columns_eq (table_of_restored hcatalog hordered hnames hentry htable)

end Tree

/-- From a store that holds nothing, the columns of a working catalog are those of its tree, each
once, in key order; and whatever turns the lookups of each schema take, the columns and the store in
the end are the same as when the lookups are done one after the other. -/
theorem catalogColumns_exact (hf : f.Ordered) (hs : s.source = f) (hvacant : s.store.Vacant)
    {schemas : SchemaTree} (hworks : Name.restore catalog ∉ f.failing)
    (hfind : Dictionary.find? f.tree (Name.restore catalog) = some schemas)
    (hnames : Restored (walker options) schemas) :
    ((walker options).catalogColumns catalog s).1 =
        columnsBelow (walker options) catalog schemas ∧
      ∀ turns, ((walker options).catalogColumnsIn turns catalog s).1 =
          ((walker options).catalogColumns catalog s).1 ∧
        ((walker options).catalogColumnsIn turns catalog s).2.store =
          ((walker options).catalogColumns catalog s).2.store := by
  have hcatalog : f.catalog (Name.restore catalog) = .ok schemas :=
    catalog_eq_ok_iff.2 ⟨hworks, hfind⟩
  have hordered : Dictionary.AscendingOf Dictionary.Ascending schemas :=
    hf.values (Name.restore catalog, schemas) (Dictionary.mem_of_find? hfind)
  have hall := catalogColumnsIn_eq hs hvacant (nodup_view_schemas hcatalog hordered hnames)
    (nodup_view_tables hcatalog hordered hnames)
  obtain ⟨hsequential, hstore⟩ := hall fun _ => []
  rw [catalogColumnsIn_nil rfl] at hsequential hstore
  refine ⟨hsequential.trans (flatMap_schemaView hcatalog hordered hnames), ?_⟩
  intro turns
  obtain ⟨hturns, hstore'⟩ := hall turns
  exact ⟨hturns.trans hsequential.symm, hstore'.trans hstore.symm⟩

/-- Two tables with names outside the grammar, beside a catalog that is out of order: the lookup of
the second table overtakes that of the first one. -/
theorem catalogColumns_exact_hyphens :
    let f := (((empty.withTable "c" "s-1" "t-2" [⟨"b", "varchar"⟩]).withTable "c" "s-1" "t-1"
      [⟨"id-a", "integer"⟩, ⟨"id", "integer"⟩]).withFailing "d")
    let schemas : SchemaTree := [("s-1", [("t-1", [⟨"id-a", "integer"⟩, ⟨"id", "integer"⟩]),
      ("t-2", [⟨"b", "varchar"⟩])])]
    let w := walker ⟨true, true⟩
    let s := Session.start f Store.empty
    f.Ordered ∧ s.source = f ∧ s.store.Vacant ∧ Name.restore "c" ∉ f.failing ∧
      Dictionary.find? f.tree (Name.restore "c") = some schemas ∧ Restored w schemas ∧
      (w.catalogColumnsIn (fun _ => [0, 1, 1, 1, 0]) "c" s).1 =
        [⟨"c", "s_U002D_1", "t_U002D_1", "id_U002D_a", "integer"⟩,
          ⟨"c", "s_U002D_1", "t_U002D_1", "id", "integer"⟩,
          ⟨"c", "s_U002D_1", "t_U002D_2", "b", "varchar"⟩] ∧
      (w.catalogColumnsIn (fun _ => [0, 1, 1, 1, 0]) "c" s).2.store =
        (w.catalogColumns "c" s).2.store := by
  intro f schemas w s
  have hf : f.Ordered := ((ordered_empty.withTable _ _ _ _).withTable _ _ _ _).withFailing _
  have hvacant : s.store.Vacant := Store.vacant_empty
  have hworks : Name.restore "c" ∉ f.failing := by decide +kernel
  have hfind : Dictionary.find? f.tree (Name.restore "c") = some schemas := by decide +kernel
  have hnames : Restored w schemas := ⟨by decide +kernel, by decide +kernel⟩
  obtain ⟨hcolumns, hturns⟩ := catalogColumns_exact hf rfl hvacant hworks hfind hnames
  obtain ⟨hsame, hstore⟩ := hturns fun _ => [0, 1, 1, 1, 0]
  refine ⟨hf, rfl, hvacant, hworks, hfind, hnames, ?_, hstore⟩
  rw [hsame, hcolumns]
  decide +kernel

end Fixture

end CatalogGraph.Discovery
