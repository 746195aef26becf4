import CatalogGraph.Proofs.Exposure

/-!
# The schema of a fixture

Where every name of the tree is restored from its spelling, the schema of a fixture is the tree: one
root field and one object type for each exposed table, or a collision that names two of them. With
rewritten names alone, two names of one list can have one spelling, which is listed once. Then one
table takes the place of the other, and no collision is found.
-/

namespace CatalogGraph.Schema.RootField

/-- The root field is that of a table under the given names: its own name and that of its type are
these names with underscores between them, it takes a limit and filters, and it refers to the table
by the names. -/
structure RefersTo (field : RootField) (catalog schema table : String) : Prop where
  name : field.name = catalog ++ "_" ++ schema ++ "_" ++ table
  description : field.description =
    "Catalog: " ++ catalog ++ ", Schema: " ++ schema ++ ", Table: " ++ table
  type : field.type = .list (.object (catalog ++ "_" ++ schema ++ "_" ++ table))
  args : field.args = [⟨"limit", "Int", "Limit number of rows"⟩,
    ⟨"filters", "[FilterInput]", "Filter selection"⟩]
  table : field.table = ⟨catalog, schema, table⟩

theorem refersTo_forTable (t : TableRef) : (forTable t).RefersTo t.catalog t.schema t.table :=
  ⟨rfl, rfl, rfl, rfl, rfl⟩

end CatalogGraph.Schema.RootField

namespace CatalogGraph.Discovery.Fixture

open Cache Schema

variable {f : Fixture} {settings : Settings} {useCache : Bool} {store : Store}

/-- What an assembly over the fixture gives. -/
def assembled (f : Fixture) (settings : Settings) (useCache : Bool) (store : Store) :
    Except Collision Generated :=
  (assemble (walker (options settings useCache)) settings (Session.start f store)).1

/-- Two different exposed tables have types of one name. -/
def Conflict (f : Fixture) (settings : Settings) (t u : TableRef) : Prop :=
  f.Exposed settings t ∧ f.Exposed settings u ∧ t ≠ u ∧
    (settings.spellTable t).typeName = (settings.spellTable u).typeName

/-! ## Tables of the tree -/

/-- A table that is reached has the type of the table of the tree that it is restored to. -/
theorem typeOf_view {r : TableRef} {columns : List ColumnDescription}
    (hworks : Name.restore r.catalog ∉ f.failing) (h : f.HasTable (restoreTable r) columns) :
    typeOf (f.view (options settings useCache)) settings r =
      settings.objectType r.typeName columns := by
  have htable := table_eq_ok_iff_hasTable.2 ⟨hworks, h⟩
  unfold restoreTable at htable
  unfold typeOf Settings.objectType
  rw [view_columns, htable]
  exact congrArg _ (congrArg _ (fields_columnsOf columns))

theorem restore_spellTable (hnames : f.Recovers settings) {t : TableRef}
    (h : f.Exposed settings t) : restoreTable (settings.spellTable t) = t := by
  obtain ⟨columns, ⟨schemas, tables, hschemas, htables, hcolumns⟩, -⟩ := h.has_columns
  have hcatalog := mem_names_of_catalog (Dictionary.mem_keys_iff.2 ⟨schemas, hschemas⟩)
  have hschema := mem_names_of_schema hschemas (Dictionary.mem_keys_iff.2 ⟨tables, htables⟩)
  have htable := mem_names_of_table hschemas htables (Dictionary.mem_keys_iff.2 ⟨columns, hcolumns⟩)
  unfold restoreTable Settings.spellTable
  rw [hnames _ hcatalog, hnames _ hschema, hnames _ htable]

/-- The tables that the walk reaches are the exposed ones under their discovered names. -/
theorem reached_iff_exposed (useCache : Bool) (hnames : f.Recovers settings) {r : TableRef} :
    Reached (f.view (options settings useCache)) settings r ↔
      ∃ t, f.Exposed settings t ∧ settings.spellTable t = r := by
  rw [reached_iff_surfaces]
  constructor
  · intro h
    exact ⟨restoreTable r, exposed_of_surfaces hnames h⟩
  · rintro ⟨t, ht, rfl⟩
    exact surfaces_of_exposed ht (restore_spellTable hnames ht)

/-! ## Collisions -/

theorem collide_of_conflict {t u : TableRef} (h : f.Conflict settings t u)
    (ht : restoreTable (settings.spellTable t) = t)
    (hu : restoreTable (settings.spellTable u) = u) :
    Collide (f.view (options settings useCache)) settings (settings.spellTable t)
      (settings.spellTable u) := by
  obtain ⟨hexposedT, hexposedU, hne, hname⟩ := h
  refine ⟨reached_iff_surfaces.2 (surfaces_of_exposed hexposedT ht),
    reached_iff_surfaces.2 (surfaces_of_exposed hexposedU hu), ?_, hname⟩
  intro heq
  exact hne (by rw [← ht, heq, hu])

theorem conflict_of_collide (hnames : f.Recovers settings) {r q : TableRef}
    (h : Collide (f.view (options settings useCache)) settings r q) :
    ∃ t u, f.Conflict settings t u ∧ settings.spellTable t = r ∧ settings.spellTable u = q := by
  obtain ⟨hr, hq, hne, hname⟩ := h
  obtain ⟨t, ht, rfl⟩ := (reached_iff_exposed useCache hnames).1 hr
  obtain ⟨u, hu, rfl⟩ := (reached_iff_exposed useCache hnames).1 hq
  refine ⟨t, u, ⟨ht, hu, ?_, hname⟩, rfl, rfl⟩
  rintro rfl
  exact hne rfl

theorem assembled_fails_iff (hdistinct : f.Distinct settings) (hstore : store.Vacant) :
    (∃ c, f.assembled settings useCache store = .error c) ↔
      ∃ r q, Collide (f.view (options settings useCache)) settings r q :=
  assemble_fails_iff (shows_view f _) (separated_view useCache hdistinct) rfl hstore

theorem describes_of_assembled (hdistinct : f.Distinct settings) (hstore : store.Vacant)
    {schema : Generated} (h : f.assembled settings useCache store = .ok schema) :
    ∃ refs, (∀ r, r ∈ refs ↔ Reached (f.view (options settings useCache)) settings r) ∧
      Describes (f.view (options settings useCache)) settings refs schema :=
  describes_of_assemble (shows_view f _) (separated_view useCache hdistinct) rfl hstore h

/-! ## Exactly the source -/

/-- The schema has exactly the given tables: a root field for each of them, which refers to it by
its discovered names, and these restore to it; the object types of their usable columns in the order
of their names, and the type of map entries where a field uses it. The tables are all that are
exposed, each once. -/
structure Mirrors (f : Fixture) (settings : Settings) (tables : List TableRef)
    (schema : Generated) : Prop where
  nodup : tables.Nodup
  exposed : ∀ t, t ∈ tables ↔ f.Exposed settings t
  restored : ∀ t ∈ tables, restoreTable (settings.spellTable t) = t
  catalogs_sorted : schema.catalogs.Pairwise (· < ·)
  catalogs : ∀ name, name ∈ schema.catalogs ↔
    (∃ raw ∈ f.tree.keys, settings.spell raw = name) ∧ settings.allowsCatalog name = true ∧
      nameAllowed settings name = true
  fields : schema.queryFields = tables.map fun t => RootField.forTable (settings.spellTable t)
  refer : List.Forall₂ (fun field t =>
    field.RefersTo (settings.spell t.catalog) (settings.spell t.schema) (settings.spell t.table) ∧
      restoreTable field.table = t) schema.queryFields tables
  fields_sorted : schema.queryFields.Pairwise fun a b => a.name < b.name
  subscriptions : schema.subscriptionFields = schema.queryFields
  types_sorted : schema.objectTypes.Pairwise fun a b => a.name < b.name
  types : ∀ type, type ∈ schema.objectTypes ↔
    (∃ t ∈ tables, ∃ columns, f.HasTable t columns ∧
      settings.objectType (settings.spellTable t).typeName columns = type) ∨
    type = keyValueType ∧ ∃ t ∈ tables, ∃ columns, f.HasTable t columns ∧
      ∃ field ∈ (settings.objectType (settings.spellTable t).typeName columns).fields,
        field.type.usesKeyValue = true

theorem mirrors_of_describes (hnames : f.Recovers settings) {refs : List TableRef}
    {schema : Generated}
    (hrefs : ∀ r, r ∈ refs ↔ Reached (f.view (options settings useCache)) settings r)
    (h : Describes (f.view (options settings useCache)) settings refs schema) :
    f.Mirrors settings (refs.map restoreTable) schema := by
  have hexposed : ∀ r ∈ refs, f.Exposed settings (restoreTable r) ∧
      settings.spellTable (restoreTable r) = r := by
    intro r hr
    exact exposed_of_surfaces hnames (reached_iff_surfaces.1 ((hrefs r).1 hr))
  have hmem : ∀ t, t ∈ refs.map restoreTable ↔ f.Exposed settings t := by
    intro t
    constructor
    · intro ht
      obtain ⟨r, hr, rfl⟩ := List.mem_map.1 ht
      exact (hexposed r hr).1
    · intro ht
      have hreached := (reached_iff_exposed useCache hnames).2 ⟨t, ht, rfl⟩
      exact List.mem_map.2 ⟨_, (hrefs _).2 hreached, restore_spellTable hnames ht⟩
  have hrestored : ∀ t ∈ refs.map restoreTable, restoreTable (settings.spellTable t) = t :=
    fun t ht => restore_spellTable hnames ((hmem t).1 ht)
  have htypes (p : ObjectType → Prop) :
      (∃ r ∈ refs, p (typeOf (f.view (options settings useCache)) settings r)) ↔
        ∃ t ∈ refs.map restoreTable, ∃ columns, f.HasTable t columns ∧
          p (settings.objectType (settings.spellTable t).typeName columns) := by
    constructor
    · rintro ⟨r, hr, hp⟩
      obtain ⟨hexposedR, hspell⟩ := hexposed r hr
      obtain ⟨columns, hcolumns, -⟩ := hexposedR.has_columns
      refine ⟨restoreTable r, List.mem_map_of_mem hr, columns, hcolumns, ?_⟩
      rwa [hspell, ← typeOf_view hexposedR.working hcolumns]
    · rintro ⟨t, ht, columns, hcolumns, hp⟩
      obtain ⟨r, hr, rfl⟩ := List.mem_map.1 ht
      obtain ⟨hexposedR, hspell⟩ := hexposed r hr
      refine ⟨r, hr, ?_⟩
      rwa [hspell, ← typeOf_view hexposedR.working hcolumns] at hp
  have hfields : schema.queryFields =
      (refs.map restoreTable).map fun t => RootField.forTable (settings.spellTable t) := by
    rw [h.fields, List.map_map]
    refine List.map_congr_left ?_
    intro r hr
    exact congrArg RootField.forTable (hexposed r hr).2.symm
  refine ⟨?_, hmem, hrestored, ?_, ?_, hfields, ?_, ?_, h.subscriptions, h.sorted, ?_⟩
  · refine h.nodup.map_on ?_
    intro r hr q hq heq
    rw [← (hexposed r hr).2, heq, (hexposed q hq).2]
  · rw [h.catalogs]
    exact (pairwise_sortNames _).filter _
  · intro name
    rw [h.catalogs, List.mem_filter, mem_sortNames, exposesCatalog, Bool.and_eq_true_iff]
    exact and_congr_left' List.mem_map
  · rw [hfields, List.forall₂_map_left_iff, List.forall₂_same]
    intro t ht
    exact ⟨RootField.refersTo_forTable _, hrestored t ht⟩
  · rw [h.fields, List.pairwise_map]
    exact h.ordered
  · intro type
    rw [h.types, htypes fun found => found = type,
      htypes fun found => ∃ field ∈ found.fields, field.type.usesKeyValue = true]

/-- The assembly over a fixture whose names are restored from their spellings fails exactly when two
exposed tables have types of one name, and then names two such tables. Otherwise its schema has
exactly the exposed tables. -/
theorem assembled_exact (f : Fixture) (settings : Settings) (useCache : Bool) (store : Store)
    (hstore : store.Vacant) (hnames : f.Recovers settings) :
    ((∃ c, f.assembled settings useCache store = .error c) ↔ ∃ t u, f.Conflict settings t u) ∧
    (∀ c, f.assembled settings useCache store = .error c →
      ∃ t u, f.Conflict settings t u ∧
        c = ⟨(settings.spellTable u).typeName, (settings.spellTable t).qualified,
          (settings.spellTable u).qualified⟩) ∧
    ∀ schema, f.assembled settings useCache store = .ok schema →
      ∃ tables, f.Mirrors settings tables schema := by
  have hdistinct := distinct_of_recovers hnames
  refine ⟨?_, ?_, ?_⟩
  · rw [assembled_fails_iff hdistinct hstore]
    constructor
    · rintro ⟨r, q, h⟩
      obtain ⟨t, u, hconflict, -, -⟩ := conflict_of_collide hnames h
      exact ⟨t, u, hconflict⟩
    · rintro ⟨t, u, h⟩
      exact ⟨_, _, collide_of_conflict h (restore_spellTable hnames h.1)
        (restore_spellTable hnames h.2.1)⟩
  · intro c hc
    obtain ⟨r, q, h, rfl⟩ := collide_of_assemble (shows_view f _)
      (separated_view useCache hdistinct) rfl hstore hc
    obtain ⟨t, u, hconflict, rfl, rfl⟩ := conflict_of_collide hnames h
    exact ⟨t, u, hconflict, rfl⟩
  · intro schema hschema
    obtain ⟨refs, hrefs, hdescribes⟩ := describes_of_assembled hdistinct hstore hschema
    exact ⟨_, mirrors_of_describes hnames hrefs hdescribes⟩

/-- A catalog that fails is passed over, and names outside the grammar come back from their
spellings. -/
theorem assembled_exact_orders :
    let f : Fixture := ⟨[("hive", [("s-1", [("order lines", [⟨"id", "bigint"⟩])])]),
      ("old", [("s", [("t", [⟨"id", "bigint"⟩])])])], ["old"], []⟩
    let settings : Settings := ⟨none, [], none, [], true, true⟩
    Store.empty.Vacant ∧ f.Recovers settings ∧
      ∃ tables schema, f.assembled settings true Store.empty = .ok schema ∧
        f.Mirrors settings tables schema ∧ schema.queryFields.map (·.table) =
          [⟨"hive", "s_U002D_1", "order_U0020_lines"⟩] := by
  intro f settings
  have hnames : f.Recovers settings := by decide +kernel
  have hfields : (f.assembled settings true Store.empty).map
      (fun schema => schema.queryFields.map (·.table)) =
        .ok [⟨"hive", "s_U002D_1", "order_U0020_lines"⟩] := by
    decide +kernel
  obtain ⟨-, -, hok⟩ := assembled_exact f settings true Store.empty Store.vacant_empty hnames
  cases h : f.assembled settings true Store.empty with
  | error c =>
    rw [h] at hfields
    cases hfields
  | ok schema =>
    obtain ⟨tables, hmirrors⟩ := hok schema h
    rw [h] at hfields
    exact ⟨Store.vacant_empty, hnames, tables, schema, rfl, hmirrors, Except.ok.inj hfields⟩

/-! ## Names with one spelling -/

theorem length_filter_name_le {fields : List RootField}
    (h : fields.Pairwise fun a b => a.name < b.name) (name : String) :
    (fields.filter fun field => field.name = name).length ≤ 1 := by
  have hpairwise := h.filter fun field => field.name = name
  have hname : ∀ field ∈ fields.filter (fun field => field.name = name), field.name = name := by
    intro field hfield
    simpa using (List.mem_filter.1 hfield).2
  cases hfound : fields.filter fun field => field.name = name with
  | nil => simp
  | cons a rest =>
    cases rest with
    | nil => simp
    | cons b more =>
      rw [hfound] at hpairwise hname
      have hlt := (List.pairwise_cons.1 hpairwise).1 b (by simp)
      rw [hname a (by simp), hname b (by simp)] at hlt
      exact absurd hlt (String.lt_irrefl _)

/-- When names are rewritten, the assembly fails exactly when two different tables that surface have
types of one name. Otherwise it has one root field for each table that surfaces, with the columns of
the table that this one is restored to. So two exposed tables with types of one name make it fail
where both are restored from their spellings. Where they have one spelling, this is not so, and they
have one root field at most. -/
theorem assembled_rewritten (f : Fixture) (settings : Settings) (useCache : Bool) (store : Store)
    (hreplace : settings.replaceInvalid = true) (hstore : store.Vacant) :
    ((∃ c, f.assembled settings useCache store = .error c) ↔
      ∃ r q, f.Surfaces settings r ∧ f.Surfaces settings q ∧ r ≠ q ∧ r.typeName = q.typeName) ∧
    (∀ schema, f.assembled settings useCache store = .ok schema →
      ∃ refs : List TableRef, refs.Nodup ∧ (∀ r, r ∈ refs ↔ f.Surfaces settings r) ∧
        schema.queryFields = refs.map RootField.forTable ∧
        List.Forall₂ (fun field r => field.RefersTo r.catalog r.schema r.table)
          schema.queryFields refs ∧
        ∀ r ∈ refs, ∃ columns, f.HasTable (restoreTable r) columns ∧
          settings.objectType r.typeName columns ∈ schema.objectTypes) ∧
    ∀ t u, f.Conflict settings t u →
      (restoreTable (settings.spellTable t) = t → restoreTable (settings.spellTable u) = u →
        ∃ c, f.assembled settings useCache store = .error c) ∧
      (settings.spellTable t = settings.spellTable u →
        ¬ (restoreTable (settings.spellTable t) = t ∧ restoreTable (settings.spellTable u) = u) ∧
        ∀ schema, f.assembled settings useCache store = .ok schema →
          (schema.queryFields.filter fun field =>
            field.name = (settings.spellTable t).typeName).length ≤ 1) := by
  have hdistinct := distinct_of_replace (f := f) hreplace
  refine ⟨?_, ?_, ?_⟩
  · rw [assembled_fails_iff hdistinct hstore]
    simp only [Collide, reached_iff_surfaces]
  · intro schema hschema
    obtain ⟨refs, hrefs, h⟩ := describes_of_assembled hdistinct hstore hschema
    have hrefer : List.Forall₂ (fun field r => field.RefersTo r.catalog r.schema r.table)
        schema.queryFields refs := by
      rw [h.fields, List.forall₂_map_left_iff, List.forall₂_same]
      exact fun r _ => RootField.refersTo_forTable r
    refine ⟨refs, h.nodup, fun r => (hrefs r).trans reached_iff_surfaces, h.fields, hrefer, ?_⟩
    intro r hr
    have hsurfaces := reached_iff_surfaces.1 ((hrefs r).1 hr)
    obtain ⟨columns, hcolumns⟩ := hsurfaces.hasTable
    refine ⟨columns, hcolumns, (h.types _).2 (.inl ⟨r, hr, ?_⟩)⟩
    exact typeOf_view hsurfaces.working hcolumns
  · intro t u h
    refine ⟨?_, ?_⟩
    · intro ht hu
      exact (assembled_fails_iff hdistinct hstore).2 ⟨_, _, collide_of_conflict h ht hu⟩
    · intro hspell
      refine ⟨?_, ?_⟩
      · rintro ⟨ht, hu⟩
        exact h.2.2.1 (by rw [← ht, hspell, hu])
      · intro schema hschema
        obtain ⟨refs, -, hdescribes⟩ := describes_of_assembled hdistinct hstore hschema
        refine length_filter_name_le ?_ _
        rw [hdescribes.fields, List.pairwise_map]
        exact hdescribes.ordered

/-- Two tables whose names are joined to one type name make the assembly fail. -/
theorem assembled_rewritten_separator :
    let f : Fixture := ⟨[("a", [("b_c", [("d", [⟨"id", "bigint"⟩])])]),
      ("a_b", [("c", [("d", [⟨"id", "bigint"⟩])])])], [], []⟩
    let settings : Settings := ⟨none, [], none, [], true, true⟩
    let store : Store := .database Database.blank "hive"
    settings.replaceInvalid = true ∧ store.Vacant ∧
      ∃ c, f.assembled settings true store = .error c := by
  intro f settings store
  have hstore : store.Vacant := Store.vacant_database none "hive"
  refine ⟨rfl, hstore, ?_⟩
  obtain ⟨-, -, hpairs⟩ := assembled_rewritten f settings true store rfl hstore
  have hfirst : f.Exposed settings ⟨"a", "b_c", "d"⟩ := by decide +kernel
  have hsecond : f.Exposed settings ⟨"a_b", "c", "d"⟩ := by decide +kernel
  have hpair := hpairs _ _ ⟨hfirst, hsecond, by decide, by decide +kernel⟩
  exact hpair.1 (by decide +kernel) (by decide +kernel)

/-- A minus and the text of its token are two tables with one spelling: the assembly succeeds, and
its only root field is that of both. -/
theorem siblings_share_field :
    let f : Fixture := ⟨[("c", [("s", [("-", [⟨"a", "integer"⟩]),
      ("_U002D_", [⟨"b", "integer"⟩])])])], [], []⟩
    let settings : Settings := ⟨none, [], none, [], true, true⟩
    let t : TableRef := ⟨"c", "s", "-"⟩
    let u : TableRef := ⟨"c", "s", "_U002D_"⟩
    settings.replaceInvalid = true ∧ Store.empty.Vacant ∧ f.Conflict settings t u ∧
      ∃ schema, f.assembled settings true Store.empty = .ok schema ∧
        schema.queryFields = [⟨"c_s__U002D_", "Catalog: c, Schema: s, Table: _U002D_",
          .list (.object "c_s__U002D_"), tableArguments, ⟨"c", "s", "_U002D_"⟩⟩] := by
  intro f settings t u
  have ht : f.Exposed settings t := by decide +kernel
  have hu : f.Exposed settings u := by decide +kernel
  have hfields : (f.assembled settings true Store.empty).map (·.queryFields) =
      .ok [⟨"c_s__U002D_", "Catalog: c, Schema: s, Table: _U002D_",
        .list (.object "c_s__U002D_"), tableArguments, ⟨"c", "s", "_U002D_"⟩⟩] := by
    decide +kernel
  refine ⟨rfl, Store.vacant_empty, ⟨ht, hu, by decide, by decide +kernel⟩, ?_⟩
  cases h : f.assembled settings true Store.empty with
  | error c =>
    rw [h] at hfields
    cases hfields
  | ok schema =>
    rw [h] at hfields
    exact ⟨schema, rfl, Except.ok.inj hfields⟩

end CatalogGraph.Discovery.Fixture
