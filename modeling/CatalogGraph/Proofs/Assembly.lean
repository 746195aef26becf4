import CatalogGraph.Proofs.Walk
import Mathlib.Data.List.Nodup

/-!
# What an assembly exposes

The walk reaches every table once, so an assembly fails exactly when two different tables that it
reaches have types of one name. Otherwise its schema has one root field and one object type for each
table that is reached, and nothing else but the type of map entries.
-/

namespace CatalogGraph.Schema

open Cache Discovery Registry

section Reached

variable {v : View} {settings : Settings}

/-! ## Reached tables -/

/-- The view lists the table under exposed names, and one of its columns may be used. -/
structure Reached (v : View) (settings : Settings) (t : TableRef) : Prop where
  catalog_mem : t.catalog ∈ v.catalogs
  schema_mem : t.schema ∈ v.schemas t.catalog
  table_mem : t.table ∈ v.tables t.catalog t.schema
  catalog_exposed : exposesCatalog settings t.catalog = true
  schema_exposed : exposesSchema settings t.schema = true
  table_allowed : nameAllowed settings t.table = true
  has_columns : usable settings (v.columns t.catalog t.schema t.table) ≠ []

/-- The object type of a table of the view. -/
def typeOf (v : View) (settings : Settings) (t : TableRef) : ObjectType :=
  ⟨t.typeName,
    firstOfName ((usable settings (v.columns t.catalog t.schema t.table)).map fieldOf)⟩

theorem mem_tablesNamed_iff {catalog schema : String} {names : List String} {t : TableRef} :
    t ∈ tablesNamed settings catalog schema names ↔
      t.catalog = catalog ∧ t.schema = schema ∧ t.table ∈ names ∧
        nameAllowed settings t.table = true := by
  unfold tablesNamed
  simp only [List.mem_map, List.mem_filter]
  constructor
  · rintro ⟨name, ⟨hname, hallowed⟩, rfl⟩
    exact ⟨rfl, rfl, hname, hallowed⟩
  · rintro ⟨rfl, rfl, hname, hallowed⟩
    exact ⟨t.table, ⟨hname, hallowed⟩, rfl⟩

theorem mem_tablesBelow_iff {catalog : String} {names : List String} {t : TableRef} :
    t ∈ tablesBelow v settings catalog names ↔
      t.catalog = catalog ∧ t.schema ∈ names ∧ exposesSchema settings t.schema = true ∧
        t.table ∈ v.tables t.catalog t.schema ∧ nameAllowed settings t.table = true := by
  unfold tablesBelow
  simp only [List.mem_flatMap, List.mem_filter, mem_tablesNamed_iff, mem_sortNames]
  constructor
  · rintro ⟨schema, ⟨hschema, hexposed⟩, rfl, rfl, htable, hallowed⟩
    exact ⟨rfl, hschema, hexposed, htable, hallowed⟩
  · rintro ⟨rfl, hschema, hexposed, htable, hallowed⟩
    exact ⟨t.schema, ⟨hschema, hexposed⟩, rfl, rfl, htable, hallowed⟩

theorem mem_tablesWithin_iff {names : List String} {t : TableRef} :
    t ∈ tablesWithin v settings names ↔
      t.catalog ∈ names ∧ exposesCatalog settings t.catalog = true ∧
        t.schema ∈ v.schemas t.catalog ∧ exposesSchema settings t.schema = true ∧
        t.table ∈ v.tables t.catalog t.schema ∧ nameAllowed settings t.table = true := by
  unfold tablesWithin
  simp only [List.mem_flatMap, List.mem_filter, mem_tablesBelow_iff, mem_sortNames]
  constructor
  · rintro ⟨catalog, ⟨hcatalog, hexposed⟩, rfl, hrest⟩
    exact ⟨hcatalog, hexposed, hrest⟩
  · rintro ⟨hcatalog, hexposed, hrest⟩
    exact ⟨t.catalog, ⟨hcatalog, hexposed⟩, rfl, hrest⟩

theorem typed?_eq_some_iff {t : TableRef} {e : Entry} :
    typed? v settings t = some e ↔
      e = (t, typeOf v settings t) ∧
        usable settings (v.columns t.catalog t.schema t.table) ≠ [] := by
  unfold typed?
  simp only [Option.map_eq_some_iff, tableType?_eq_some_iff]
  constructor
  · rintro ⟨type, ⟨husable, rfl⟩, rfl⟩
    exact ⟨rfl, husable⟩
  · rintro ⟨rfl, husable⟩
    exact ⟨_, ⟨husable, rfl⟩, rfl⟩

/-- The walk registers exactly the tables that are reached, with the types of the view. -/
theorem mem_entries_iff {e : Entry} :
    e ∈ entries v settings ↔ Reached v settings e.1 ∧ e.2 = typeOf v settings e.1 := by
  unfold entries
  simp only [List.mem_filterMap, mem_tablesWithin_iff, mem_sortNames, typed?_eq_some_iff]
  constructor
  · rintro ⟨t, ⟨hcatalog, hexposed, hschema, hschemaExposed, htable, hallowed⟩, rfl, husable⟩
    exact ⟨⟨hcatalog, hschema, htable, hexposed, hschemaExposed, hallowed, husable⟩, rfl⟩
  · rintro ⟨h, htype⟩
    exact ⟨e.1, ⟨h.catalog_mem, h.catalog_exposed, h.schema_mem, h.schema_exposed, h.table_mem,
      h.table_allowed⟩, Prod.ext rfl htype, h.has_columns⟩

/-! ## Every table once -/

theorem nodup_tablesNamed (catalog schema : String) {names : List String} (h : names.Nodup) :
    (tablesNamed settings catalog schema names).Nodup := by
  refine (h.filter _).map ?_
  intro a b hab
  exact (TableRef.mk.inj hab).2.2

theorem nodup_tablesBelow (catalog : String) {names : List String} (h : names.Nodup) :
    (tablesBelow v settings catalog names).Nodup := by
  refine List.pairwise_flatMap.2 ⟨fun name _ => nodup_tablesNamed _ _ (nodup_sortNames _), ?_⟩
  refine (h.filter _).imp ?_
  intro a b hab t ht u hu htu
  rw [mem_tablesNamed_iff] at ht hu
  exact hab (by rw [← ht.2.1, htu, hu.2.1])

theorem nodup_tablesWithin {names : List String} (h : names.Nodup) :
    (tablesWithin v settings names).Nodup := by
  refine List.pairwise_flatMap.2 ⟨fun name _ => nodup_tablesBelow _ (nodup_sortNames _), ?_⟩
  refine (h.filter _).imp ?_
  intro a b hab t ht u hu htu
  rw [mem_tablesBelow_iff] at ht hu
  exact hab (by rw [← ht.1, htu, hu.1])

theorem nodup_entries : (entries v settings).Nodup := by
  refine (nodup_tablesWithin (nodup_sortNames _)).filterMap ?_
  intro t u e ht hu
  have htable := typed?_eq_some_iff.1 ht
  have hother := typed?_eq_some_iff.1 hu
  exact (Prod.mk.inj (htable.1.symm.trans hother.1)).1

/-! ## Names of types -/

theorem typeName_not_reserved (t : TableRef) : t.typeName ∉ reservedNames := by
  intro hmem
  have hunderscore : '_' ∈ t.typeName.toList := by simp [TableRef.typeName]
  have hnone : ∀ name ∈ reservedNames, '_' ∉ name.toList := by decide
  exact hnone _ hmem hunderscore

theorem entries_free (v : View) (settings : Settings) :
    ∀ e ∈ entries v settings, e.2.name ∉ reservedNames := by
  intro e he
  rw [(mem_entries_iff.1 he).2]
  exact typeName_not_reserved e.1

/-- Two different tables that are reached have types of one name. -/
def Collide (v : View) (settings : Settings) (t u : TableRef) : Prop :=
  Reached v settings t ∧ Reached v settings u ∧ t ≠ u ∧ t.typeName = u.typeName

theorem collide_of_clash {c : Collision} (h : Clash (entries v settings) c) :
    ∃ t u, Collide v settings t u ∧ c = ⟨u.typeName, t.qualified, u.qualified⟩ := by
  obtain ⟨first, second, hsub, hname, rfl⟩ := h
  have hfirstMem : first ∈ entries v settings := hsub.subset (by simp)
  have hsecondMem : second ∈ entries v settings := hsub.subset (by simp)
  obtain ⟨hfirst, hfirstType⟩ := mem_entries_iff.1 hfirstMem
  obtain ⟨hsecond, hsecondType⟩ := mem_entries_iff.1 hsecondMem
  have hne : first ≠ second := by simpa using nodup_entries.sublist hsub
  rw [hfirstType, hsecondType] at hname
  refine ⟨first.1, second.1, ⟨hfirst, hsecond, ?_, hname⟩, ?_⟩
  · intro heq
    exact hne (Prod.ext heq (by rw [hfirstType, hsecondType, heq]))
  · rw [hsecondType]
    rfl

theorem nodup_names_iff :
    ((entries v settings).map fun e => e.2.name).Nodup ↔ ¬ ∃ t u, Collide v settings t u := by
  rw [List.nodup_map_iff_inj_on nodup_entries]
  constructor
  · rintro hinj ⟨t, u, ht, hu, hne, hname⟩
    have heq := hinj (t, typeOf v settings t) (mem_entries_iff.2 ⟨ht, rfl⟩)
      (u, typeOf v settings u) (mem_entries_iff.2 ⟨hu, rfl⟩) hname
    exact hne (Prod.mk.inj heq).1
  · intro hnone e he other hother hname
    obtain ⟨ht, htype⟩ := mem_entries_iff.1 he
    obtain ⟨hu, hotherType⟩ := mem_entries_iff.1 hother
    rw [htype, hotherType] at hname
    by_contra hne
    refine hnone ⟨e.1, other.1, ht, hu, ?_, hname⟩
    intro heq
    exact hne (Prod.ext heq (by rw [htype, hotherType, heq]))

end Reached

/-! ## Outcomes -/

/-- The schema has exactly the given tables of the view, in the order of the names of their types,
and the type of map entries where one of them uses it. -/
structure Describes (v : View) (settings : Settings) (refs : List TableRef) (schema : Generated) :
    Prop where
  catalogs : schema.catalogs = (sortNames v.catalogs).filter (exposesCatalog settings)
  fields : schema.queryFields = refs.map RootField.forTable
  subscriptions : schema.subscriptionFields = schema.queryFields
  ordered : refs.Pairwise fun t u => t.typeName < u.typeName
  sorted : schema.objectTypes.Pairwise fun a b => a.name < b.name
  types : ∀ type, type ∈ schema.objectTypes ↔
    (∃ t ∈ refs, typeOf v settings t = type) ∨
      type = keyValueType ∧
        ∃ t ∈ refs, ∃ field ∈ (typeOf v settings t).fields, field.type.usesKeyValue = true

theorem Describes.nodup {v : View} {settings : Settings} {refs : List TableRef}
    {schema : Generated} (h : Describes v settings refs schema) : refs.Nodup := by
  refine h.ordered.imp ?_
  rintro t u hlt rfl
  exact String.lt_irrefl _ hlt

section Outcomes

variable {σ : Type} {w : Walker σ} {state : σ} {v : View} {settings : Settings} {s : Session σ}

theorem describes_of_holds {r : Registry} (h : Holds r (entries v settings)) :
    ∃ refs, (∀ t, t ∈ refs ↔ Reached v settings t) ∧
      Describes v settings refs
        (r.schema ((sortNames v.catalogs).filter (exposesCatalog settings))) := by
  have hentry : ∀ e ∈ Dictionary.values r, Reached v settings e.1 ∧ e.2 = typeOf v settings e.1 :=
    fun e he => mem_entries_iff.1 (h.perm_values.mem_iff.1 he)
  have hmem : ∀ t, t ∈ (Dictionary.values r).map Prod.fst ↔ Reached v settings t := by
    intro t
    constructor
    · intro ht
      obtain ⟨e, he, rfl⟩ := List.mem_map.1 ht
      exact (hentry e he).1
    · intro ht
      have hheld := h.perm_values.mem_iff.2 (mem_entries_iff.2
        (show Reached v settings (t, typeOf v settings t).1 ∧ _ from ⟨ht, rfl⟩))
      exact List.mem_map.2 ⟨_, hheld, rfl⟩
  obtain ⟨hsorted, htypes⟩ := h.objectTypes (entries_free v settings)
    ((sortNames v.catalogs).filter (exposesCatalog settings))
  refine ⟨(Dictionary.values r).map Prod.fst, hmem, rfl, ?_, rfl, ?_, hsorted, ?_⟩
  · rw [List.map_map]
    rfl
  · rw [List.pairwise_map]
    refine h.pairwise_entries.imp_of_mem ?_
    intro a b ha hb hlt
    rwa [(hentry a ha).2, (hentry b hb).2] at hlt
  · intro type
    rw [htypes]
    simp only [UsesKeyValue, hmem, mem_entries_iff]
    constructor
    · rintro (⟨e, ⟨ht, htype⟩, rfl⟩ | ⟨rfl, e, ⟨ht, htype⟩, huses⟩)
      · exact .inl ⟨e.1, ht, htype.symm⟩
      · exact .inr ⟨rfl, e.1, ht, by rwa [← htype]⟩
    · rintro (⟨t, ht, rfl⟩ | ⟨rfl, t, ht, huses⟩)
      · exact .inl ⟨(t, typeOf v settings t), ⟨ht, rfl⟩, rfl⟩
      · exact .inr ⟨rfl, (t, typeOf v settings t), ⟨ht, rfl⟩, huses⟩

/-- An assembly over a view fails exactly when two of the tables that it reaches collide. -/
theorem assemble_fails_iff (hw : Shows w state v) (hv : SeparatedView v) (hs : s.source = state)
    (hfresh : s.store.Vacant) :
    (∃ c, (assemble w settings s).1 = .error c) ↔ ∃ t u, Collide v settings t u := by
  rw [assemble_eq settings hw hv hs hfresh]
  have hfails := registerAll_error_iff (entries_free v settings)
  rw [nodup_names_iff, not_not] at hfails
  rw [← hfails]
  cases registerAll [] (entries v settings) with
  | error c => simp [Except.map]
  | ok r => simp [Except.map]

theorem collide_of_assemble (hw : Shows w state v) (hv : SeparatedView v) (hs : s.source = state)
    (hfresh : s.store.Vacant) {c : Collision} (h : (assemble w settings s).1 = .error c) :
    ∃ t u, Collide v settings t u ∧ c = ⟨u.typeName, t.qualified, u.qualified⟩ := by
  rw [assemble_eq settings hw hv hs hfresh] at h
  cases hr : registerAll [] (entries v settings) with
  | error d =>
    rw [hr] at h
    cases h
    exact collide_of_clash (clash_of_registerAll (entries_free v settings) hr)
  | ok r =>
    rw [hr] at h
    cases h

theorem describes_of_assemble (hw : Shows w state v) (hv : SeparatedView v) (hs : s.source = state)
    (hfresh : s.store.Vacant) {schema : Generated} (h : (assemble w settings s).1 = .ok schema) :
    ∃ refs, (∀ t, t ∈ refs ↔ Reached v settings t) ∧ Describes v settings refs schema := by
  rw [assemble_eq settings hw hv hs hfresh] at h
  cases hr : registerAll [] (entries v settings) with
  | error d =>
    rw [hr] at h
    cases h
  | ok r =>
    rw [hr] at h
    cases h
    exact describes_of_holds (holds_of_registerAll (entries_free v settings) hr)

end Outcomes

end CatalogGraph.Schema
