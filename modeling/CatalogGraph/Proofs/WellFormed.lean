import CatalogGraph.Proofs.Assembly
import CatalogGraph.Proofs.NameCodec

/-!
# Assembled schemas are well formed

Whatever the source answers and whatever the cache holds, an assembly registers only object types
that are fit for a schema. So a schema that is assembled is closed: its names are unique, its root
fields and its object types belong together, and a field refers to nothing but the type of map
entries, which is there exactly when it is referred to.
-/

namespace CatalogGraph.Discovery

/-! ## Acts that may fail -/

section Acts

variable {σ α β ε : Type} {p : α → Prop} {q : β → Prop}

/-- From every session, what the act gives has the property, if it does not fail. -/
def Gives (m : Act σ (Except ε α)) (p : α → Prop) : Prop := ∀ s a, (m s).1 = .ok a → p a

namespace Gives

theorem ok {a : α} (h : p a) : Gives (pure (.ok a) : Act σ (Except ε α)) p := by
  intro s b hb
  cases hb
  exact h

/-- Nothing need be known of what was done before. -/
theorem after (m : Act σ α) {k : α → Act σ (Except ε β)} (hk : ∀ a, Gives (k a) q) :
    Gives (m >>= k) q :=
  fun _ => hk _ _

theorem andThen {m : Act σ (Except ε α)} {k : Except ε α → Act σ (Except ε β)} (hm : Gives m p)
    (herror : ∀ e, k (.error e) = pure (.error e)) (hk : ∀ a, p a → Gives (k (.ok a)) q) :
    Gives (m >>= k) q := by
  intro s b hb
  change (k (m s).1 (m s).2).1 = .ok b at hb
  cases hrun : (m s).1 with
  | error e =>
    rw [hrun, herror] at hb
    cases hb
  | ok a =>
    rw [hrun] at hb
    exact hk a (hm s a hrun) _ b hb

theorem map {m : Act σ (Except ε α)} {f : α → β} (hm : Gives m p) (hf : ∀ a, p a → q (f a)) :
    Gives (m >>= fun x => pure (x.map f)) q :=
  hm.andThen (fun _ => rfl) fun a ha => .ok (hf a ha)

end Gives

end Acts

end CatalogGraph.Discovery

namespace CatalogGraph.NativeType

/-! ## Types of columns -/

/-- The type of a column refers to no other object type than that of map entries. -/
theorem objectName?_outputOfChars (cs : List Char) {name : String}
    (h : (outputOfChars cs).objectName? = some name) : name = keyValueName := by
  induction cs using outputOfChars.induct with
  | case1 cs native harray hfewer ih =>
    rw [outputOfChars, dif_pos harray] at h
    exact ih h
  | case2 cs native harray hmap =>
    rw [outputOfChars, dif_neg harray, if_pos hmap] at h
    exact (Option.some.inj h).symm
  | case3 cs native harray hmap hdecimal =>
    rw [outputOfChars, dif_neg harray, if_neg hmap, if_pos hdecimal] at h
    cases h
  | case4 cs native harray hmap hdecimal =>
    rw [outputOfChars, dif_neg harray, if_neg hmap, if_neg hdecimal] at h
    cases h

end CatalogGraph.NativeType

namespace CatalogGraph.Name

/-! ## Names put together -/

theorem all_isRest_of_isValidChars {cs : List Char} (h : isValidChars cs = true) :
    cs.all isRest = true := by
  cases cs with
  | nil => cases h
  | cons c rest =>
    obtain ⟨hstart, hrest⟩ := Bool.and_eq_true_iff.1 h
    rw [List.all_cons, isRest_of_isStart hstart, hrest]
    rfl

theorem isValidChars_append {cs ds : List Char} (hc : isValidChars cs = true)
    (hd : ds.all isRest = true) : isValidChars (cs ++ ds) = true := by
  cases cs with
  | nil => cases hc
  | cons c rest =>
    obtain ⟨hstart, hrest⟩ := Bool.and_eq_true_iff.1 hc
    simp [isValidChars, hstart, List.all_append, hrest, hd]

end CatalogGraph.Name

namespace CatalogGraph.Schema

open Discovery Registry

variable {settings : Settings} {t : TableRef} {type : ObjectType} {columns : List Column}
  {r : Registry}

/-! ## Names of types -/

/-- The names of a table may be used. -/
structure Allowed (settings : Settings) (t : TableRef) : Prop where
  catalog : nameAllowed settings t.catalog = true
  schema : nameAllowed settings t.schema = true
  table : nameAllowed settings t.table = true

theorem isValid_of_nameAllowed (hignore : settings.ignoreInvalid = true) {name : String}
    (h : nameAllowed settings name = true) : Name.isValid name = true := by
  simpa [nameAllowed, hignore] using h

/-- The name of a type consists of names of the grammar and underscores between them. -/
theorem isValid_typeName (ht : Allowed settings t) (hignore : settings.ignoreInvalid = true) :
    Name.isValid t.typeName = true := by
  have hcatalog := isValid_of_nameAllowed hignore ht.catalog
  have hschema := Name.all_isRest_of_isValidChars (isValid_of_nameAllowed hignore ht.schema)
  have htable := Name.all_isRest_of_isValidChars (isValid_of_nameAllowed hignore ht.table)
  have hunderscore : "_".toList.all Name.isRest = true := by decide
  unfold Name.isValid TableRef.typeName
  simp only [String.toList_append, List.append_assoc]
  refine Name.isValidChars_append hcatalog ?_
  simp only [List.all_append, hunderscore, hschema, htable, Bool.and_self]

theorem underscore_mem_typeName (t : TableRef) : '_' ∈ t.typeName.toList := by
  simp [TableRef.typeName]

/-! ## Types of tables -/

theorem nodup_firstOfName (fields : List FieldDef) :
    ((firstOfName fields).map FieldDef.name).Nodup := by
  induction fields with
  | nil => exact List.Pairwise.nil
  | cons head rest ih =>
    unfold firstOfName
    rw [List.map_cons, List.nodup_cons]
    constructor
    · intro hmem
      obtain ⟨field, hfield, hname⟩ := List.mem_map.1 hmem
      simpa [hname] using (List.mem_filter.1 hfield).2
    · exact ih.sublist (List.filter_sublist.map _)

/-- An object type that may be part of a schema: it has fields, under different names, and they
refer to no other object type than that of map entries. Where names outside the grammar are passed
over, its names fit the grammar. -/
structure Fit (settings : Settings) (type : ObjectType) : Prop where
  nonempty : type.fields ≠ []
  nodup : (type.fields.map FieldDef.name).Nodup
  references : ∀ field ∈ type.fields, ∀ name, field.type.objectName? = some name →
    name = keyValueName
  valid : settings.ignoreInvalid = true →
    Name.isValid type.name = true ∧ ∀ field ∈ type.fields, Name.isValid field.name = true

/-- A table with an object type of its own name. -/
structure Sound (settings : Settings) (e : Entry) : Prop where
  name : e.2.name = e.1.typeName
  fit : Fit settings e.2

theorem sound_of_tableType? (ht : Allowed settings t)
    (h : tableType? settings t columns = some type) : Sound settings (t, type) := by
  have hfields : ∀ field ∈ type.fields,
      nameAllowed settings field.name = true ∧ ∃ c, fieldOf c = field := by
    intro field hfield
    obtain ⟨hallowed, c, -, hmade⟩ := (mem_fields_iff h).1 hfield
    exact ⟨hallowed, c, hmade⟩
  obtain ⟨husable, rfl⟩ := tableType?_eq_some_iff.1 h
  refine ⟨rfl, ?_, nodup_firstOfName _, ?_, ?_⟩
  · obtain ⟨c, rest, hcons⟩ := List.exists_cons_of_ne_nil husable
    simp [hcons, firstOfName]
  · intro field hfield name hname
    obtain ⟨-, c, rfl⟩ := hfields field hfield
    exact NativeType.objectName?_outputOfChars _ hname
  · intro hignore
    refine ⟨isValid_typeName ht hignore, ?_⟩
    exact fun field hfield => isValid_of_nameAllowed hignore (hfields field hfield).1

theorem Sound.not_reserved {e : Entry} (h : Sound settings e) : e.2.name ∉ reservedNames := by
  rw [h.name]
  exact typeName_not_reserved e.1

theorem Sound.ne_catalogs {e : Entry} (h : Sound settings e) : e.2.name ≠ "catalogs" := by
  intro heq
  have hmem := underscore_mem_typeName e.1
  rw [← h.name, heq] at hmem
  exact absurd hmem (by decide)

/-! ## The registry along the walk -/

/-- The registry holds tables with types that are fit for a schema. -/
def Consistent (settings : Settings) (r : Registry) : Prop :=
  ∃ entries, Holds r entries ∧ ∀ e ∈ entries, Sound settings e

theorem consistent_nil : Consistent settings [] := by
  refine ⟨[], holds_nil, ?_⟩
  intro e he
  cases he

/-- A table that is registered comes to those that are held, or else is refused. -/
theorem Consistent.register (hr : Consistent settings r) (he : Sound settings (t, type))
    {s : Registry} (h : r.register t type = .ok s) : Consistent settings s := by
  obtain ⟨entries, hholds, hsound⟩ := hr
  by_cases hold : ∃ a ∈ entries, a.2.name = type.name
  · obtain ⟨a, ha, hname⟩ := hold
    obtain ⟨b, -, -, herror⟩ := register_of_mem hholds he.not_reserved ha hname
    cases h.symm.trans herror
  · simp only [not_exists, not_and] at hold
    obtain ⟨next, hok, hnext⟩ := register_of_not_mem hholds he.not_reserved hold
    cases h.symm.trans hok
    refine ⟨_, hnext, ?_⟩
    intro e hmem
    rcases List.mem_append.1 hmem with hmem | hmem
    · exact hsound e hmem
    · rw [List.mem_singleton.1 hmem]
      exact he

section Walk

variable {σ : Type}

theorem gives_addTable (ht : Allowed settings t) (columns : List Column)
    (hr : Consistent settings r) :
    Gives (addTable (σ := σ) settings t columns r) (Consistent settings) := by
  refine .after _ fun _ => ?_
  cases htype : tableType? settings t columns with
  | none => exact .after _ fun _ => .ok hr
  | some type => exact fun s next hnext => hr.register (sound_of_tableType? ht htype) hnext

theorem gives_addTables (w : Walker σ) {catalog schema : String}
    (hcatalog : nameAllowed settings catalog = true)
    (hschema : nameAllowed settings schema = true) (names : List String)
    (hr : Consistent settings r) :
    Gives (addTables w settings catalog schema names r) (Consistent settings) := by
  induction names generalizing r with
  | nil => exact .ok hr
  | cons name rest ih =>
    unfold addTables
    split
    · rename_i hname
      refine .after _ fun columns => ?_
      have hallowed : Allowed settings ⟨catalog, schema, name⟩ := ⟨hcatalog, hschema, hname⟩
      have htable := gives_addTable (σ := σ) hallowed columns hr
      refine htable.andThen (fun _ => rfl) ?_
      exact fun _ hnext => ih hnext
    · exact .after _ fun _ => ih hr

theorem gives_addSchemas (w : Walker σ) {catalog : String}
    (hcatalog : nameAllowed settings catalog = true) (names : List String)
    (hr : Consistent settings r) :
    Gives (addSchemas w settings catalog names r) (Consistent settings) := by
  induction names generalizing r with
  | nil => exact .ok hr
  | cons name rest ih =>
    unfold addSchemas
    split
    · exact ih hr
    · split
      · rename_i hname
        refine .after _ fun tables => ?_
        have htables := gives_addTables w hcatalog hname (sortNames tables) hr
        refine htables.andThen (fun _ => rfl) ?_
        exact fun _ hnext => ih hnext
      · exact .after _ fun _ => ih hr

/-- The exposed catalogs and the registry after a walk. -/
def Walked (settings : Settings) (found : List String × Registry) : Prop :=
  (∀ name ∈ found.1, nameAllowed settings name = true) ∧ Consistent settings found.2

theorem gives_addCatalogs (w : Walker σ) (names : List String) (hr : Consistent settings r) :
    Gives (addCatalogs w settings names r) (Walked settings) := by
  induction names generalizing r with
  | nil => exact .ok ⟨by simp, hr⟩
  | cons name rest ih =>
    unfold addCatalogs
    split
    · exact ih hr
    · split
      · rename_i hname
        refine .after _ fun schemas => ?_
        have hschemas := gives_addSchemas w hname (sortNames schemas) hr
        refine hschemas.andThen (fun _ => rfl) fun next hnext => ?_
        refine (ih hnext).map fun found hfound => ⟨?_, hfound.2⟩
        intro other hother
        rcases List.mem_cons.1 hother with rfl | hother
        · exact hname
        · exact hfound.1 other hother
      · exact .after _ fun _ => ih hr

end Walk

/-! ## Well-formed schemas -/

/-- The names of a schema are unique, its root fields are the lists of its object types other than
the type of map entries, and its object types refer to no other type than this one, which is there
where it is referred to. -/
structure WellFormed (settings : Settings) (schema : Generated) : Prop where
  types_sorted : schema.objectTypes.Pairwise fun a b => a.name < b.name
  types_fit : ∀ type ∈ schema.objectTypes, Fit settings type
  subscriptions : schema.subscriptionFields = schema.queryFields
  fields_sorted : schema.queryFields.Pairwise fun a b => a.name < b.name
  field_names : ∀ name, (∃ field ∈ schema.queryFields, field.name = name) ↔
    name ≠ keyValueName ∧ ∃ type ∈ schema.objectTypes, type.name = name
  fields_free : ∀ field ∈ schema.queryFields, field.name ≠ "catalogs" ∧ field.name ∉ reservedNames
  field_types : ∀ field ∈ schema.queryFields, field.type = .list (.object field.name)
  key_value : ∀ type ∈ schema.objectTypes, type.name = keyValueName → type = keyValueType
  key_value_used : keyValueType ∈ schema.objectTypes ↔ ∃ type ∈ schema.objectTypes,
    ∃ field ∈ type.fields, field.type.objectName? = some keyValueName
  catalogs_valid : settings.ignoreInvalid = true →
    ∀ name ∈ schema.catalogs, Name.isValid name = true
  fields_valid : settings.ignoreInvalid = true →
    ∀ field ∈ schema.queryFields, Name.isValid field.name = true

theorem not_refers_keyValueType : ∀ field ∈ keyValueType.fields,
    field.type.objectName? = none := by decide

theorem fit_keyValueType : Fit settings keyValueType := by
  refine ⟨by decide, by decide, ?_, fun _ => by decide⟩
  intro field hfield name hname
  rw [not_refers_keyValueType field hfield] at hname
  cases hname

section Registered

variable {entries : List Entry} {visible : List String}

theorem name_ne_keyValueName (hsound : ∀ e ∈ entries, Sound settings e) {e : Entry}
    (he : e ∈ entries) : e.2.name ≠ keyValueName := by
  intro heq
  exact (hsound e he).not_reserved (heq ▸ by decide)

theorem mem_objectTypes_iff (hholds : Holds r entries) (hsound : ∀ e ∈ entries, Sound settings e)
    (visible : List String) (type : ObjectType) :
    type ∈ (r.schema visible).objectTypes ↔
      (∃ e ∈ entries, e.2 = type) ∨ type = keyValueType ∧ UsesKeyValue entries :=
  (hholds.objectTypes (fun e he => (hsound e he).not_reserved) visible).2 type

/-- Each root field is that of a table that is held, and has the name of its type. -/
theorem exists_entry_of_mem_queryFields (hholds : Holds r entries)
    (hsound : ∀ e ∈ entries, Sound settings e) (visible : List String) (field : RootField)
    (hfield : field ∈ (r.schema visible).queryFields) :
    ∃ e ∈ entries, field = RootField.forTable e.1 ∧ field.name = e.2.name := by
  obtain ⟨e, he, rfl⟩ := List.mem_map.1 hfield
  have hmem := hholds.perm_values.mem_iff.1 he
  exact ⟨e, hmem, rfl, (hsound e hmem).name.symm⟩

theorem pairwise_queryFields (hholds : Holds r entries) (hsound : ∀ e ∈ entries, Sound settings e) :
    (r.schema visible).queryFields.Pairwise fun a b => a.name < b.name := by
  refine List.pairwise_map.2 (hholds.pairwise_entries.imp_of_mem ?_)
  intro a b ha hb hlt
  have hleft := (hsound a (hholds.perm_values.mem_iff.1 ha)).name
  have hright := (hsound b (hholds.perm_values.mem_iff.1 hb)).name
  rwa [hleft, hright] at hlt

/-- Map entries are used where a field of the schema refers to their type; this type itself does not
refer to any. -/
theorem usesKeyValue_iff (hholds : Holds r entries) (hsound : ∀ e ∈ entries, Sound settings e) :
    UsesKeyValue entries ↔ ∃ type ∈ (r.schema visible).objectTypes,
      ∃ field ∈ type.fields, field.type.objectName? = some keyValueName := by
  simp only [UsesKeyValue, OutputType.usesKeyValue, beq_iff_eq, mem_objectTypes_iff hholds hsound]
  constructor
  · rintro ⟨e, he, hrefers⟩
    exact ⟨e.2, .inl ⟨e, he, rfl⟩, hrefers⟩
  · rintro ⟨_, ⟨e, he, rfl⟩ | ⟨rfl, -⟩, field, hmem, hrefers⟩
    · exact ⟨e, he, field, hmem, hrefers⟩
    · rw [not_refers_keyValueType field hmem] at hrefers
      cases hrefers

/-- The root fields have the names of the object types other than that of map entries. -/
theorem queryField_name_iff (hholds : Holds r entries) (hsound : ∀ e ∈ entries, Sound settings e)
    (name : String) : (∃ field ∈ (r.schema visible).queryFields, field.name = name) ↔
      name ≠ keyValueName ∧ ∃ type ∈ (r.schema visible).objectTypes, type.name = name := by
  constructor
  · rintro ⟨field, hmem, rfl⟩
    obtain ⟨e, he, -, heq⟩ := exists_entry_of_mem_queryFields hholds hsound _ field hmem
    rw [heq]
    exact ⟨name_ne_keyValueName hsound he, e.2,
      (mem_objectTypes_iff hholds hsound _ _).2 (.inl ⟨e, he, rfl⟩), rfl⟩
  · rintro ⟨hne, type, htype, rfl⟩
    rcases (mem_objectTypes_iff hholds hsound _ _).1 htype with ⟨e, he, rfl⟩ | ⟨rfl, -⟩
    · refine ⟨RootField.forTable e.1, ?_, (hsound e he).name.symm⟩
      exact List.mem_map_of_mem (hholds.perm_values.mem_iff.2 he)
    · exact absurd rfl hne

end Registered

/-- A schema is well formed if its registry is consistent and its catalogs are exposed. -/
theorem wellFormed_schema (hr : Consistent settings r) {visible : List String}
    (hvisible : ∀ name ∈ visible, nameAllowed settings name = true) :
    WellFormed settings (r.schema visible) := by
  obtain ⟨entries, hholds, hsound⟩ := hr
  have htypes := mem_objectTypes_iff hholds hsound visible
  have hfields := exists_entry_of_mem_queryFields hholds hsound visible
  constructor
  case types_sorted =>
    exact (hholds.objectTypes (fun e he => (hsound e he).not_reserved) visible).1
  case types_fit =>
    intro type htype
    rcases (htypes type).1 htype with ⟨e, he, rfl⟩ | ⟨rfl, -⟩
    · exact (hsound e he).fit
    · exact fit_keyValueType
  case subscriptions => rfl
  case fields_sorted => exact pairwise_queryFields hholds hsound
  case field_names => exact queryField_name_iff hholds hsound
  case fields_free =>
    intro field hmem
    obtain ⟨e, he, -, heq⟩ := hfields field hmem
    rw [heq]
    exact ⟨(hsound e he).ne_catalogs, (hsound e he).not_reserved⟩
  case field_types =>
    intro field hmem
    obtain ⟨e, he, rfl, -⟩ := hfields field hmem
    rfl
  case key_value =>
    intro type htype heq
    rcases (htypes type).1 htype with ⟨e, he, rfl⟩ | ⟨rfl, -⟩
    · exact absurd heq (name_ne_keyValueName hsound he)
    · rfl
  case key_value_used =>
    rw [← usesKeyValue_iff hholds hsound, htypes]
    constructor
    · rintro (⟨e, he, heq⟩ | ⟨-, h⟩)
      · exact absurd (congrArg ObjectType.name heq) (name_ne_keyValueName hsound he)
      · exact h
    · exact fun h => .inr ⟨rfl, h⟩
  case catalogs_valid =>
    exact fun hignore name hmem => isValid_of_nameAllowed hignore (hvisible name hmem)
  case fields_valid =>
    intro hignore field hmem
    obtain ⟨e, he, -, heq⟩ := hfields field hmem
    rw [heq]
    exact ((hsound e he).fit.valid hignore).1

/-- A schema that is assembled is well formed, whatever the source answers and the cache holds. -/
theorem wellFormed_of_assemble {σ : Type} (w : Walker σ) (settings : Settings) (s : Session σ)
    (schema : Generated) (h : (assemble w settings s).1 = .ok schema) :
    WellFormed settings schema := by
  have hgives : Gives (assemble w settings) (WellFormed settings) := by
    refine .after _ fun catalogs => ?_
    have hstart : Consistent settings [] := consistent_nil
    have hwalk := gives_addCatalogs w (sortNames catalogs) hstart
    refine hwalk.andThen (fun _ => rfl) ?_
    rintro ⟨visible, r⟩ ⟨hvisible, hr⟩
    exact .after _ fun _ => .ok (wellFormed_schema hr hvisible)
  exact hgives s schema h

/-- A cached list of catalogs that no source would give: a name is repeated, another one is outside
the grammar. The one table has a column of maps. -/
theorem wellFormed_of_assemble_cached :
    let f : Fixture := ⟨[("hive", [("web", [("visits", [⟨"id", "bigint"⟩, ⟨"no-name", "bigint"⟩,
      ⟨"tags", "array(map(varchar,varchar))"⟩])])])], [], []⟩
    let store := Cache.Store.empty.put .catalogs (Json.strings ["hive", "old-hive", "hive"])
    ∃ schema, (assemble ⟨Fixture.source, ⟨false, true⟩⟩ .standard (.start f store)).1 = .ok schema ∧
      WellFormed .standard schema ∧ schema.catalogs = ["hive"] ∧
      schema.objectTypes.map ObjectType.name = ["KeyValue", "hive_web_visits"] := by
  intro f store
  have hnames : (assemble ⟨Fixture.source, ⟨false, true⟩⟩ .standard (.start f store)).1.map
      (fun schema => (schema.catalogs, schema.objectTypes.map ObjectType.name)) =
        .ok (["hive"], ["KeyValue", "hive_web_visits"]) := by decide +kernel
  have hfit := wellFormed_of_assemble ⟨Fixture.source, ⟨false, true⟩⟩ .standard (.start f store)
  cases h : (assemble ⟨Fixture.source, ⟨false, true⟩⟩ .standard (.start f store)).1 with
  | error e =>
    rw [h] at hnames
    cases hnames
  | ok schema =>
    rw [h] at hnames
    obtain ⟨hcatalogs, htypes⟩ := Prod.mk.inj (Except.ok.inj hnames)
    exact ⟨schema, rfl, hfit schema h, hcatalogs, htypes⟩

end CatalogGraph.Schema
