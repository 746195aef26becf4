import CatalogGraph.Proofs.Assembly

/-!
# Exposed tables of a fixture

A table of the tree is exposed when its catalog works, its names pass under their discovered
spelling, and one of its columns may be used. The assembly asks for lists by restored names. So it
reaches the tables whose names are the spelling of names in the lists that it sees, and where every
name of the tree is restored from its spelling, these are just the exposed tables.
-/

namespace CatalogGraph.Discovery

open Schema

/-! ## Spelling -/

namespace Settings

/-- A name as it is discovered. -/
def spell (settings : Settings) (name : String) : String :=
  if settings.replaceInvalid then Name.sanitize name else name

/-- A table under its discovered names. -/
def spellTable (settings : Settings) (t : TableRef) : TableRef :=
  ⟨settings.spell t.catalog, settings.spell t.schema, settings.spell t.table⟩

/-- The field of a column under its discovered name. -/
def fieldFor (settings : Settings) (d : ColumnDescription) : FieldDef :=
  ⟨settings.spell d.name, NativeType.output d.nativeType, some ("Native type: " ++ d.nativeType)⟩

/-- The object type of that name with a field for each of the columns whose name may be used, the
first one where a name is repeated. -/
def objectType (settings : Settings) (name : String) (columns : List ColumnDescription) :
    ObjectType :=
  ⟨name, firstOfName ((columns.map settings.fieldFor).filter fun field =>
    nameAllowed settings field.name)⟩

end Settings

/-- A table under its restored names. -/
def restoreTable (t : TableRef) : TableRef :=
  ⟨Name.restore t.catalog, Name.restore t.schema, Name.restore t.table⟩

/-! ## The tree -/

namespace Fixture

/-- The tree has the table, with the given columns. -/
def HasTable (f : Fixture) (t : TableRef) (columns : List ColumnDescription) : Prop :=
  ∃ schemas tables, Dictionary.find? f.tree t.catalog = some schemas ∧
    Dictionary.find? schemas t.schema = some tables ∧
    Dictionary.find? tables t.table = some columns

/-- The names of the catalogs, schemas and tables of the tree. -/
def names (f : Fixture) : List String :=
  f.tree.flatMap fun (catalog, schemas) =>
    catalog :: schemas.flatMap fun (schema, tables) => schema :: tables.keys

/-- The table works, passes all filters, and has a column that may be used. -/
structure Exposed (f : Fixture) (settings : Settings) (t : TableRef) : Prop where
  working : t.catalog ∉ f.failing
  catalog_allowed : settings.allowsCatalog (settings.spell t.catalog) = true
  schema_allowed : settings.allowsSchema (settings.spell t.schema) = true
  catalog_named : nameAllowed settings (settings.spell t.catalog) = true
  schema_named : nameAllowed settings (settings.spell t.schema) = true
  table_named : nameAllowed settings (settings.spell t.table) = true
  has_columns : ∃ columns, f.HasTable t columns ∧
    ∃ d ∈ columns, nameAllowed settings (settings.spell d.name) = true

/-- The names of the table are spellings of names in the lists that restored names lead to, and the
table that it is restored to has a column that may be used. -/
structure Surfaces (f : Fixture) (settings : Settings) (t : TableRef) : Prop where
  working : Name.restore t.catalog ∉ f.failing
  catalog_allowed : settings.allowsCatalog t.catalog = true
  schema_allowed : settings.allowsSchema t.schema = true
  catalog_named : nameAllowed settings t.catalog = true
  schema_named : nameAllowed settings t.schema = true
  table_named : nameAllowed settings t.table = true
  catalog_listed : ∃ name ∈ f.tree.keys, settings.spell name = t.catalog
  below_listed : ∃ schemas tables columns,
    Dictionary.find? f.tree (Name.restore t.catalog) = some schemas ∧
    Dictionary.find? schemas (Name.restore t.schema) = some tables ∧
    Dictionary.find? tables (Name.restore t.table) = some columns ∧
    (∃ name ∈ schemas.keys, settings.spell name = t.schema) ∧
    (∃ name ∈ tables.keys, settings.spell name = t.table) ∧
    ∃ d ∈ columns, nameAllowed settings (settings.spell d.name) = true

variable {f : Fixture} {settings : Settings}

/-! ## Answers of a fixture -/

theorem catalog_eq_ok_iff {name : String} {schemas : SchemaTree} :
    f.catalog name = .ok schemas ↔
      name ∉ f.failing ∧ Dictionary.find? f.tree name = some schemas := by
  unfold catalog
  by_cases hfails : name ∈ f.failing
  · simp [hfails]
  · cases Dictionary.find? f.tree name <;> simp [hfails]

theorem schema_eq_ok_iff {name schema : String} {tables : TableTree} :
    f.schema name schema = .ok tables ↔
      ∃ schemas, f.catalog name = .ok schemas ∧ Dictionary.find? schemas schema = some tables := by
  unfold Fixture.schema
  cases f.catalog name with
  | error e => simp
  | ok schemas => cases hfind : Dictionary.find? schemas schema <;> simp [hfind]

theorem table_eq_ok_iff {name schema table : String} {columns : List ColumnDescription} :
    f.table name schema table = .ok columns ↔
      ∃ tables, f.schema name schema = .ok tables ∧
        Dictionary.find? tables table = some columns := by
  unfold Fixture.table
  cases f.schema name schema with
  | error e => simp
  | ok tables => cases hfind : Dictionary.find? tables table <;> simp [hfind]

theorem table_eq_ok_iff_hasTable {t : TableRef} {columns : List ColumnDescription} :
    f.table t.catalog t.schema t.table = .ok columns ↔
      t.catalog ∉ f.failing ∧ f.HasTable t columns := by
  rw [table_eq_ok_iff]
  constructor
  · rintro ⟨tables, htables, hcolumns⟩
    obtain ⟨schemas, hschemas, hfindTables⟩ := schema_eq_ok_iff.1 htables
    obtain ⟨hworks, hfindSchemas⟩ := catalog_eq_ok_iff.1 hschemas
    exact ⟨hworks, schemas, tables, hfindSchemas, hfindTables, hcolumns⟩
  · rintro ⟨hworks, schemas, tables, hschemas, htables, hcolumns⟩
    have hcatalog := catalog_eq_ok_iff.2 ⟨hworks, hschemas⟩
    exact ⟨tables, schema_eq_ok_iff.2 ⟨schemas, hcatalog, htables⟩, hcolumns⟩

/-- Whether a table is exposed, from the answers of the fixture. -/
def exposes (f : Fixture) (settings : Settings) (t : TableRef) : Bool :=
  exposesCatalog settings (settings.spell t.catalog) &&
    exposesSchema settings (settings.spell t.schema) &&
    nameAllowed settings (settings.spell t.table) &&
    (listed (f.table t.catalog t.schema t.table)).any fun d =>
      nameAllowed settings (settings.spell d.name)

theorem exposes_iff {t : TableRef} : f.exposes settings t = true ↔ f.Exposed settings t := by
  unfold exposes exposesCatalog exposesSchema
  simp only [Bool.and_eq_true, List.any_eq_true]
  constructor
  · rintro ⟨⟨⟨⟨hcatalog, hcatalogNamed⟩, hschema, hschemaNamed⟩, htable⟩, d, hd, hused⟩
    cases hanswer : f.table t.catalog t.schema t.table with
    | error e =>
      rw [hanswer] at hd
      cases hd
    | ok columns =>
      rw [hanswer] at hd
      obtain ⟨hworks, hcolumns⟩ := table_eq_ok_iff_hasTable.1 hanswer
      exact ⟨hworks, hcatalog, hschema, hcatalogNamed, hschemaNamed, htable, columns, hcolumns,
        d, hd, hused⟩
  · intro h
    obtain ⟨columns, hcolumns, d, hd, hused⟩ := h.has_columns
    have hanswer := table_eq_ok_iff_hasTable.2 ⟨h.working, hcolumns⟩
    refine ⟨⟨⟨⟨h.catalog_allowed, h.catalog_named⟩, h.schema_allowed, h.schema_named⟩,
      h.table_named⟩, d, ?_, hused⟩
    rw [hanswer]
    exact hd

instance (f : Fixture) (settings : Settings) (t : TableRef) : Decidable (f.Exposed settings t) :=
  decidable_of_iff _ exposes_iff

theorem mem_listed_iff {α : Type} {answer : Answer (List α)} {a : α} :
    a ∈ listed answer ↔ ∃ values, answer = .ok values ∧ a ∈ values := by
  cases answer <;> simp [listed]

/-! ## The view of the tree -/

/-- How a walker is set up for the settings. -/
def options (settings : Settings) (useCache : Bool) : Options := ⟨settings.replaceInvalid, useCache⟩

variable {useCache : Bool} {name catalog schema table : String}

theorem mem_view_schemas_iff :
    name ∈ (f.view (options settings useCache)).schemas catalog ↔
      ∃ schemas, f.catalog (Name.restore catalog) = .ok schemas ∧
        ∃ raw ∈ schemas.keys, settings.spell raw = name := by
  change name ∈ listed _ ↔ _
  rw [mem_listed_iff]
  cases f.catalog (Name.restore catalog) with
  | error e => simp [Except.map]
  | ok schemas => simp [Except.map, walker, Walker.spell, options, Settings.spell]

theorem mem_view_tables_iff :
    name ∈ (f.view (options settings useCache)).tables catalog schema ↔
      ∃ tables, f.schema (Name.restore catalog) (Name.restore schema) = .ok tables ∧
        ∃ raw ∈ tables.keys, settings.spell raw = name := by
  change name ∈ listed _ ↔ _
  rw [mem_listed_iff]
  cases f.schema (Name.restore catalog) (Name.restore schema) with
  | error e => simp [Except.map]
  | ok tables => simp [Except.map, walker, Walker.spell, options, Settings.spell]

theorem fields_columnsOf (columns : List ColumnDescription) :
    (usable settings ((walker (options settings useCache)).columnsOf catalog schema table
      columns)).map fieldOf =
      (columns.map settings.fieldFor).filter fun field => nameAllowed settings field.name := by
  unfold usable Walker.columnsOf
  rw [List.filter_map, List.map_map, List.filter_map]
  rfl

theorem view_columns :
    (f.view (options settings useCache)).columns catalog schema table =
      listed ((f.table (Name.restore catalog) (Name.restore schema) (Name.restore table)).map
        ((walker (options settings useCache)).columnsOf catalog schema table)) := rfl

/-- A table of the view has a usable column exactly when the tree has the table that it is restored
to, with such a column. -/
theorem usable_view_iff :
    usable settings ((f.view (options settings useCache)).columns catalog schema table) ≠ [] ↔
      ∃ columns,
        f.table (Name.restore catalog) (Name.restore schema) (Name.restore table) = .ok columns ∧
        ∃ d ∈ columns, nameAllowed settings (settings.spell d.name) = true := by
  rw [view_columns]
  cases f.table (Name.restore catalog) (Name.restore schema) (Name.restore table) with
  | error e => simp [Except.map, listed, usable]
  | ok columns =>
    rw [usable_ne_nil_iff]
    constructor
    · rintro ⟨c, hc, hused⟩
      obtain ⟨d, hd, rfl⟩ := List.mem_map.1 hc
      exact ⟨columns, rfl, d, hd, hused⟩
    · rintro ⟨found, hfound, d, hd, hused⟩
      cases hfound
      exact ⟨_, List.mem_map_of_mem hd, hused⟩

/-- The walk reaches just the tables that surface. -/
theorem reached_iff_surfaces {t : TableRef} :
    Reached (f.view (options settings useCache)) settings t ↔ f.Surfaces settings t := by
  constructor
  · intro h
    obtain ⟨hcatalog, hcatalogNamed⟩ := Bool.and_eq_true_iff.1 h.catalog_exposed
    obtain ⟨hschema, hschemaNamed⟩ := Bool.and_eq_true_iff.1 h.schema_exposed
    obtain ⟨schemas, hschemas, hschemaListed⟩ := mem_view_schemas_iff.1 h.schema_mem
    obtain ⟨tables, htables, htableListed⟩ := mem_view_tables_iff.1 h.table_mem
    obtain ⟨columns, hcolumns, hused⟩ := usable_view_iff.1 h.has_columns
    obtain ⟨others, hothers, hfindTables⟩ := schema_eq_ok_iff.1 htables
    obtain ⟨more, hmore, hfindColumns⟩ := table_eq_ok_iff.1 hcolumns
    -- The three requests walk down one branch of the tree.
    obtain rfl : schemas = others := Except.ok.inj (hschemas.symm.trans hothers)
    obtain rfl : tables = more := Except.ok.inj (htables.symm.trans hmore)
    obtain ⟨hworks, hfindSchemas⟩ := catalog_eq_ok_iff.1 hschemas
    exact ⟨hworks, hcatalog, hschema, hcatalogNamed, hschemaNamed, h.table_allowed,
      List.mem_map.1 h.catalog_mem, schemas, tables, columns, hfindSchemas, hfindTables,
      hfindColumns, hschemaListed, htableListed, hused⟩
  · intro h
    obtain ⟨schemas, tables, columns, hfindSchemas, hfindTables, hfindColumns, hschemaListed,
      htableListed, hused⟩ := h.below_listed
    have hschemas := catalog_eq_ok_iff.2 ⟨h.working, hfindSchemas⟩
    have htables := schema_eq_ok_iff.2 ⟨schemas, hschemas, hfindTables⟩
    have hcolumns := table_eq_ok_iff.2 ⟨tables, htables, hfindColumns⟩
    exact ⟨List.mem_map.2 h.catalog_listed,
      mem_view_schemas_iff.2 ⟨schemas, hschemas, hschemaListed⟩,
      mem_view_tables_iff.2 ⟨tables, htables, htableListed⟩,
      Bool.and_eq_true_iff.2 ⟨h.catalog_allowed, h.catalog_named⟩,
      Bool.and_eq_true_iff.2 ⟨h.schema_allowed, h.schema_named⟩, h.table_named,
      usable_view_iff.2 ⟨columns, hcolumns, hused⟩⟩

theorem Surfaces.hasTable {t : TableRef} (h : f.Surfaces settings t) :
    ∃ columns, f.HasTable (restoreTable t) columns := by
  obtain ⟨schemas, tables, columns, hschemas, htables, hcolumns, -⟩ := h.below_listed
  exact ⟨columns, schemas, tables, hschemas, htables, hcolumns⟩

/-! ## Names of the tree -/

theorem mem_names_of_catalog (h : name ∈ f.tree.keys) : name ∈ f.names := by
  obtain ⟨entry, hentry, rfl⟩ := List.mem_map.1 h
  exact List.mem_flatMap.2 ⟨entry, hentry, List.mem_cons_self⟩

theorem mem_names_of_schema {schemas : SchemaTree}
    (hfind : Dictionary.find? f.tree catalog = some schemas) (h : name ∈ schemas.keys) :
    name ∈ f.names := by
  obtain ⟨entry, hentry, rfl⟩ := List.mem_map.1 h
  refine List.mem_flatMap.2 ⟨(catalog, schemas), Dictionary.mem_of_find? hfind, ?_⟩
  exact List.mem_cons_of_mem _ (List.mem_flatMap.2 ⟨entry, hentry, List.mem_cons_self⟩)

theorem mem_names_of_table {schemas : SchemaTree} {tables : TableTree}
    (hschemas : Dictionary.find? f.tree catalog = some schemas)
    (htables : Dictionary.find? schemas schema = some tables) (h : name ∈ tables.keys) :
    name ∈ f.names := by
  refine List.mem_flatMap.2 ⟨(catalog, schemas), Dictionary.mem_of_find? hschemas, ?_⟩
  refine List.mem_cons_of_mem _ (List.mem_flatMap.2 ⟨(schema, tables),
    Dictionary.mem_of_find? htables, ?_⟩)
  exact List.mem_cons_of_mem _ h

/-- Discovered names of the tree that are rewritten alike are the same. -/
def Distinct (f : Fixture) (settings : Settings) : Prop :=
  ∀ a ∈ f.names, ∀ b ∈ f.names,
    Name.sanitize (settings.spell a) = Name.sanitize (settings.spell b) →
      settings.spell a = settings.spell b

theorem separated_view (useCache : Bool) (h : f.Distinct settings) :
    SeparatedView (f.view (options settings useCache)) where
  catalogs := by
    intro a ha b hb heq
    obtain ⟨rawA, hrawA, rfl⟩ := List.mem_map.1 ha
    obtain ⟨rawB, hrawB, rfl⟩ := List.mem_map.1 hb
    exact h rawA (mem_names_of_catalog hrawA) rawB (mem_names_of_catalog hrawB) heq
  schemas catalog := by
    intro a ha b hb heq
    obtain ⟨schemas, hschemas, rawA, hrawA, rfl⟩ := mem_view_schemas_iff.1 ha
    obtain ⟨others, hothers, rawB, hrawB, rfl⟩ := mem_view_schemas_iff.1 hb
    have hfindA := (catalog_eq_ok_iff.1 hschemas).2
    have hfindB := (catalog_eq_ok_iff.1 hothers).2
    exact h rawA (mem_names_of_schema hfindA hrawA) rawB (mem_names_of_schema hfindB hrawB) heq
  tables catalog schema := by
    intro a ha b hb heq
    obtain ⟨tables, htables, rawA, hrawA, rfl⟩ := mem_view_tables_iff.1 ha
    obtain ⟨others, hothers, rawB, hrawB, rfl⟩ := mem_view_tables_iff.1 hb
    obtain ⟨schemasA, hschemasA, hfindA⟩ := schema_eq_ok_iff.1 htables
    obtain ⟨schemasB, hschemasB, hfindB⟩ := schema_eq_ok_iff.1 hothers
    have htreeA := (catalog_eq_ok_iff.1 hschemasA).2
    have htreeB := (catalog_eq_ok_iff.1 hschemasB).2
    exact h rawA (mem_names_of_table htreeA hfindA hrawA) rawB
      (mem_names_of_table htreeB hfindB hrawB) heq

theorem distinct_of_replace (h : settings.replaceInvalid = true) : f.Distinct settings := by
  intro a _ b _ heq
  simpa [Settings.spell, h] using heq

/-- Every name of the tree is restored from its spelling. -/
def Recovers (f : Fixture) (settings : Settings) : Prop :=
  ∀ name ∈ f.names, Name.restore (settings.spell name) = name

instance (f : Fixture) (settings : Settings) : Decidable (f.Recovers settings) :=
  inferInstanceAs (Decidable (∀ name ∈ f.names, Name.restore (settings.spell name) = name))

theorem distinct_of_recovers (h : f.Recovers settings) : f.Distinct settings := by
  intro a ha b hb heq
  cases hreplace : settings.replaceInvalid with
  | true => exact distinct_of_replace hreplace a ha b hb heq
  | false =>
    have hrestore := And.intro (h a ha) (h b hb)
    simp only [Settings.spell, hreplace, Bool.false_eq_true, if_false] at heq hrestore ⊢
    exact Name.sanitize_injective_of_restore hrestore.1 hrestore.2 heq

/-! ## Exposed tables surface -/

/-- An exposed table that is restored from its spelling surfaces under it. -/
theorem surfaces_of_exposed {t : TableRef} (h : f.Exposed settings t)
    (hback : restoreTable (settings.spellTable t) = t) :
    f.Surfaces settings (settings.spellTable t) := by
  obtain ⟨hcatalog, hschema, htable⟩ := TableRef.mk.inj hback
  obtain ⟨columns, ⟨schemas, tables, hfindSchemas, hfindTables, hfindColumns⟩, hused⟩ :=
    h.has_columns
  have hcatalogKey := Dictionary.mem_keys_iff.2 ⟨schemas, hfindSchemas⟩
  have hschemaKey := Dictionary.mem_keys_iff.2 ⟨tables, hfindTables⟩
  have htableKey := Dictionary.mem_keys_iff.2 ⟨columns, hfindColumns⟩
  rw [← hcatalog] at hfindSchemas
  rw [← hschema] at hfindTables
  rw [← htable] at hfindColumns
  exact ⟨by rw [hcatalog]; exact h.working, h.catalog_allowed, h.schema_allowed, h.catalog_named,
    h.schema_named, h.table_named, ⟨t.catalog, hcatalogKey, rfl⟩, schemas, tables, columns,
    hfindSchemas, hfindTables, hfindColumns, ⟨t.schema, hschemaKey, rfl⟩,
    ⟨t.table, htableKey, rfl⟩, hused⟩

/-- Where all names are restored, only exposed tables surface. -/
theorem exposed_of_surfaces (hnames : f.Recovers settings) {t : TableRef}
    (h : f.Surfaces settings t) :
    f.Exposed settings (restoreTable t) ∧ settings.spellTable (restoreTable t) = t := by
  obtain ⟨catalog, hcatalog, hcatalogSpell⟩ := h.catalog_listed
  obtain ⟨schemas, tables, columns, hfindSchemas, hfindTables, hfindColumns,
    ⟨schema, hschema, hschemaSpell⟩, ⟨table, htable, htableSpell⟩, hused⟩ := h.below_listed
  have hcatalogBack := hnames catalog (mem_names_of_catalog hcatalog)
  have hschemaBack := hnames schema (mem_names_of_schema hfindSchemas hschema)
  have htableBack := hnames table (mem_names_of_table hfindSchemas hfindTables htable)
  rw [hcatalogSpell] at hcatalogBack
  rw [hschemaSpell] at hschemaBack
  rw [htableSpell] at htableBack
  have hspell : settings.spellTable (restoreTable t) = t := by
    unfold restoreTable Settings.spellTable
    rw [hcatalogBack, hschemaBack, htableBack, hcatalogSpell, hschemaSpell, htableSpell]
  obtain ⟨hcatalogEq, hschemaEq, htableEq⟩ := TableRef.mk.inj hspell
  refine ⟨⟨h.working, ?_, ?_, ?_, ?_, ?_, columns, ?_, hused⟩, hspell⟩
  · rw [hcatalogEq]; exact h.catalog_allowed
  · rw [hschemaEq]; exact h.schema_allowed
  · rw [hcatalogEq]; exact h.catalog_named
  · rw [hschemaEq]; exact h.schema_named
  · rw [htableEq]; exact h.table_named
  · exact ⟨schemas, tables, hfindSchemas, hfindTables, hfindColumns⟩

end Fixture

end CatalogGraph.Discovery
