import CatalogGraph.Discovery.Fixture
import CatalogGraph.Proofs.DocumentContents

/-!
# Documents hang together

The definitions in the document of an assembled schema have different names, their members have
different names of the grammar, and every type that is named is a scalar or is defined, as a type of
the right kind. Their blocks have members, with one exception: where no table is exposed, the type
of subscriptions is empty, although the type of queries has its list of catalogs even then.
-/

namespace CatalogGraph.Syntax

/-- The scalars that need no definition. -/
def scalars : List String := ["Int", "Float", "String", "Boolean", "ID"]

/-- Whether a member of a block may be of a type with the other heading. Input types stay among
themselves; everything may be of an enumeration. -/
def Heading.mayHold : Heading → Heading → Bool
  | _, .enum _ => true
  | .input _, .input _ => true
  | .schema, .type _ => true
  | .type _, .type _ => true
  | _, _ => false

/-- A name that may be used as a type in a block: a scalar, or the name of a fitting definition. -/
def Known (headings : List Heading) (block : Heading) (name : String) : Prop :=
  name ∈ scalars ∨ ∃ heading ∈ headings, heading.name? = some name ∧ block.mayHold heading = true

instance (headings : List Heading) (block : Heading) (name : String) :
    Decidable (Known headings block name) :=
  inferInstanceAs (Decidable (_ ∨ _))

theorem Known.mono {headings wider : List Heading} {block : Heading} {name : String}
    (h : Known headings block name) (hsub : headings ⊆ wider) : Known wider block name := by
  rcases h with h | ⟨heading, hmem, hname⟩
  · exact .inl h
  · exact .inr ⟨heading, hsub hmem, hname⟩

/-- The members of a definition have different names of the grammar, and so have the parameters of
each member. Parameters are of input types. -/
structure Definition.Coherent (headings : List Heading) (d : Definition) : Prop where
  distinct : (d.members.map Member.name).Nodup
  valid : ∀ m ∈ d.members, Name.isValid m.name = true
  types : ∀ m ∈ d.members, ∀ type ∈ m.type, Known headings d.heading type.target
  parameters_distinct : ∀ m ∈ d.members, (m.parameters.map Parameter.name).Nodup
  parameters_valid : ∀ m ∈ d.members, ∀ p ∈ m.parameters, Name.isValid p.name = true
  parameters_types : ∀ m ∈ d.members, ∀ p ∈ m.parameters,
    Known headings (.input "") p.type.target

/-- No name is defined twice, and each definition is coherent with the others. -/
structure Coherent (defs : List Definition) : Prop where
  distinct : (defs.filterMap fun d => d.heading.name?).Nodup
  definitions : ∀ d ∈ defs, d.Coherent (defs.map Definition.heading)

end CatalogGraph.Syntax

namespace CatalogGraph.Schema

open Discovery Syntax

variable {settings : Settings} {s : Generated}

/-! ## Names of definitions -/

theorem name_not_fixed (h : WellFormed settings s) {type : ObjectType}
    (htype : type ∈ s.objectTypes) :
    type.name ∉ ["Query", "Subscription", filterOperatorName, filterInputName] := by
  by_cases hname : type.name = keyValueName
  · rw [hname]
    decide
  · obtain ⟨field, hfield, heq⟩ := (h.field_names type.name).2 ⟨hname, type, htype, rfl⟩
    have hfree := (h.fields_free field hfield).2
    rw [heq] at hfree
    intro hmem
    apply hfree
    have hsub : ["Query", "Subscription", filterOperatorName, filterInputName] ⊆ reservedNames := by
      decide
    exact hsub hmem

theorem names_definitions (s : Generated) :
    ((definitions s).filterMap fun d => d.heading.name?) =
      [filterOperatorName, filterInputName] ++ (s.objectTypes.map ObjectType.name ++
        ["Query", "Subscription"]) := by
  have hobjects : (s.objectTypes.map objectDefinition).filterMap (fun d => d.heading.name?) =
      s.objectTypes.map ObjectType.name := by
    rw [List.filterMap_map, ← List.filterMap_eq_map]
    rfl
  rw [definitions, List.filterMap_append, List.filterMap_append, hobjects, List.append_assoc]
  rfl

theorem nodup_definitions (h : WellFormed settings s) :
    ((definitions s).filterMap fun d => d.heading.name?).Nodup := by
  have hobjects : (s.objectTypes.map ObjectType.name).Nodup :=
    Sorted.nodup_of_pairwise String.lt_irrefl (List.pairwise_map.2 h.types_sorted)
  rw [names_definitions, List.nodup_append_comm, List.append_assoc]
  refine List.nodup_append'.2 ⟨hobjects, by decide, fun name hname hfixed => ?_⟩
  obtain ⟨type, htype, rfl⟩ := List.mem_map.1 hname
  exact name_not_fixed h htype hfixed

/-! ## Types that are named -/

theorem headings_fixed (s : Generated) :
    [.enum filterOperatorName, .input filterInputName, .type "Query", .type "Subscription"] ⊆
      (definitions s).map Definition.heading := by
  simp [definitions, fixedDefinitions, rootsDefinition, operatorDefinition, filterDefinition,
    queryDefinition, subscriptionDefinition]

theorem known_type {type : ObjectType} (htype : type ∈ s.objectTypes) (name : String) :
    Known ((definitions s).map Definition.heading) (.type name) type.name := by
  refine .inr ⟨.type type.name, ?_, rfl, rfl⟩
  refine List.mem_map.2 ⟨objectDefinition type, ?_, rfl⟩
  refine List.mem_append_left _ (List.mem_append_right _ ?_)
  exact List.mem_map_of_mem htype

theorem scalar_known (kind : ScalarKind) : kind.name ∈ scalars := by
  cases kind <;> decide

theorem known_field (h : WellFormed settings s) {type : ObjectType} (htype : type ∈ s.objectTypes)
    {field : FieldDef} (hfield : field ∈ type.fields) :
    Known ((definitions s).map Definition.heading) (.type type.name)
      field.type.written.target := by
  rcases field.type.target_written with ⟨kind, hkind⟩ | hobject
  · rw [hkind]
    exact .inl (scalar_known kind)
  · have hname := (h.types_fit type htype).references field hfield _ hobject
    rw [hname] at hobject ⊢
    have hkeyValue := h.key_value_used.2 ⟨type, htype, field, hfield, hobject⟩
    exact known_type hkeyValue type.name

/-! ## Members -/

/-- A definition whose members have no parameters. -/
theorem coherent_of_bare {headings : List Heading} {d : Definition}
    (hdistinct : (d.members.map Member.name).Nodup)
    (hmembers : ∀ m ∈ d.members, m.parameters = [] ∧ Name.isValid m.name = true ∧
      ∀ type ∈ m.type, Known headings d.heading type.target) :
    d.Coherent headings where
  distinct := hdistinct
  valid := fun m hm => (hmembers m hm).2.1
  types := fun m hm => (hmembers m hm).2.2
  parameters_distinct := fun m hm => by
    rw [(hmembers m hm).1]
    exact List.Pairwise.nil
  parameters_valid := fun m hm p hp => by
    rw [(hmembers m hm).1] at hp
    cases hp
  parameters_types := fun m hm p hp => by
    rw [(hmembers m hm).1] at hp
    cases hp

theorem coherent_fixed (s : Generated) : ∀ d ∈ fixedDefinitions,
    d.Coherent ((definitions s).map Definition.heading) := by
  have hfixed : ∀ d ∈ fixedDefinitions, (d.members.map Member.name).Nodup ∧
      ∀ m ∈ d.members, m.parameters = [] ∧ Name.isValid m.name = true ∧
        ∀ type ∈ m.type, Known [.enum filterOperatorName, .input filterInputName, .type "Query",
          .type "Subscription"] d.heading type.target := by
    decide +kernel
  intro d hd
  obtain ⟨hdistinct, hmembers⟩ := hfixed d hd
  refine coherent_of_bare hdistinct fun m hm => ?_
  obtain ⟨hparameters, hvalid, htypes⟩ := hmembers m hm
  exact ⟨hparameters, hvalid, fun type htype => (htypes type htype).mono (headings_fixed s)⟩

theorem coherent_objectDefinition (h : WellFormed settings s)
    (hignore : settings.ignoreInvalid = true) {type : ObjectType} (htype : type ∈ s.objectTypes) :
    (objectDefinition type).Coherent ((definitions s).map Definition.heading) := by
  have hfit := h.types_fit type htype
  have hnames : (type.fields.map fieldMember).map Member.name = type.fields.map FieldDef.name := by
    rw [List.map_map]
    rfl
  apply coherent_of_bare
  · change ((type.fields.map fieldMember).map Member.name).Nodup
    rw [hnames]
    exact hfit.nodup
  · intro m hm
    obtain ⟨field, hfield, rfl⟩ := List.mem_map.1 hm
    refine ⟨rfl, (hfit.valid hignore).2 field hfield, ?_⟩
    rintro _ ⟨⟩
    exact known_field h htype hfield

theorem name_tableMember (h : Assembled settings s) {field : RootField}
    (hfield : field ∈ s.queryFields) : (tableMember field.table).name = field.name :=
  (congrArg RootField.name (h.tables field hfield)).symm

theorem parameters_tableMember (s : Generated) (t : TableRef) :
    ((tableMember t).parameters.map Parameter.name).Nodup ∧
      ∀ p ∈ (tableMember t).parameters, Name.isValid p.name = true ∧
        Known ((definitions s).map Definition.heading) (.input "") p.type.target := by
  have hfixed : ([⟨"limit", .named "Int" false⟩,
      ⟨"filters", .list (.named filterInputName false) false⟩] : List Parameter).map
        Parameter.name |>.Nodup := by decide
  refine ⟨hfixed, ?_⟩
  intro p hp
  have hknown : Name.isValid p.name = true ∧ Known [.enum filterOperatorName,
      .input filterInputName, .type "Query", .type "Subscription"] (.input "") p.type.target := by
    revert p
    change ∀ p ∈ [_, _], _
    decide
  exact ⟨hknown.1, hknown.2.mono (headings_fixed s)⟩

/-- The two types of root fields, of which one has the list of catalogs as well. -/
theorem coherent_rootFields (h : Assembled settings s) (hignore : settings.ignoreInvalid = true)
    (name : String) {first : List Member} (hfirst : first.Sublist [catalogsMember]) :
    (⟨none, .type name, first ++ s.queryFields.map fun field => tableMember field.table⟩ :
      Definition).Coherent ((definitions s).map Definition.heading) := by
  have hcatalogs : ∀ m ∈ first, m = catalogsMember :=
    fun m hm => List.mem_singleton.1 (hfirst.subset hm)
  have hmembers : ∀ m ∈ first ++ s.queryFields.map fun field => tableMember field.table,
      m = catalogsMember ∨ ∃ field ∈ s.queryFields, tableMember field.table = m := by
    intro m hm
    exact (List.mem_append.1 hm).imp (hcatalogs m) List.mem_map.1
  constructor
  case distinct =>
    have hnames : (s.queryFields.map fun field => tableMember field.table).map Member.name =
        s.queryFields.map RootField.name := by
      rw [List.map_map]
      exact List.map_congr_left fun field hfield => name_tableMember h hfield
    have hfields : (s.queryFields.map RootField.name).Nodup :=
      Sorted.nodup_of_pairwise String.lt_irrefl (List.pairwise_map.2 h.wellFormed.fields_sorted)
    rw [List.map_append, hnames]
    refine List.nodup_append'.2 ⟨?_, hfields, fun other hother hmem => ?_⟩
    · exact (List.nodup_singleton catalogsMember.name).sublist (hfirst.map Member.name)
    · obtain ⟨m, hm, rfl⟩ := List.mem_map.1 hother
      obtain ⟨field, hfield, heq⟩ := List.mem_map.1 hmem
      rw [hcatalogs m hm] at heq
      exact (h.wellFormed.fields_free field hfield).1 heq
  case valid =>
    intro m hm
    rcases hmembers m hm with rfl | ⟨field, hfield, rfl⟩
    · decide
    · exact isValid_typeName (h.allowed field hfield) hignore
  case types =>
    intro m hm type htype
    rcases hmembers m hm with rfl | ⟨field, hfield, rfl⟩
    · cases htype
      exact .inl (by decide)
    · cases htype
      obtain ⟨-, object, hobject, heq⟩ :=
        (h.wellFormed.field_names field.name).1 ⟨field, hfield, rfl⟩
      have htarget : field.table.typeName = object.name := by
        rw [heq]
        exact name_tableMember h hfield
      change Known _ _ field.table.typeName
      rw [htarget]
      exact known_type hobject name
  case parameters_distinct =>
    intro m hm
    rcases hmembers m hm with rfl | ⟨field, -, rfl⟩
    · exact List.Pairwise.nil
    · exact (parameters_tableMember s field.table).1
  case parameters_valid =>
    intro m hm p hp
    rcases hmembers m hm with rfl | ⟨field, -, rfl⟩
    · cases hp
    · exact ((parameters_tableMember s field.table).2 p hp).1
  case parameters_types =>
    intro m hm p hp
    rcases hmembers m hm with rfl | ⟨field, -, rfl⟩
    · cases hp
    · exact ((parameters_tableMember s field.table).2 p hp).2

theorem coherent_definitions (h : Assembled settings s) (hignore : settings.ignoreInvalid = true) :
    Coherent (definitions s) := by
  refine ⟨nodup_definitions h.wellFormed, fun d hd => ?_⟩
  simp only [definitions, List.mem_append, List.mem_map, List.mem_cons, List.not_mem_nil,
    or_false] at hd
  rcases hd with (hd | ⟨type, htype, rfl⟩) | rfl | rfl
  · exact coherent_fixed s d hd
  · exact coherent_objectDefinition h.wellFormed hignore htype
  · exact coherent_rootFields h hignore "Query" (List.Sublist.refl [catalogsMember])
  · rw [h.wellFormed.subscriptions]
    exact coherent_rootFields h hignore "Subscription" (List.nil_sublist [catalogsMember])

/-! ## Empty blocks -/

/-- No block is empty but that of subscriptions, and this one exactly if no table is exposed. -/
theorem empty_iff (h : WellFormed settings s) {d : Definition} (hd : d ∈ definitions s) :
    d.members = [] ↔ d.heading = .type "Subscription" ∧ s.queryFields = [] := by
  simp only [definitions, List.mem_append, List.mem_map, List.mem_cons, List.not_mem_nil,
    or_false] at hd
  rcases hd with (hd | ⟨type, htype, rfl⟩) | rfl | rfl
  · have hfixed : ∀ d ∈ fixedDefinitions, d.members ≠ [] ∧ d.heading ≠ .type "Subscription" := by
      decide +kernel
    obtain ⟨hmembers, hheading⟩ := hfixed d hd
    exact ⟨fun hnil => absurd hnil hmembers, fun hsubscription => absurd hsubscription.1 hheading⟩
  · constructor
    · intro hnil
      exact absurd (List.map_eq_nil_iff.1 hnil) (h.types_fit type htype).nonempty
    · rintro ⟨hname, -⟩
      have hfixed := name_not_fixed h htype
      rw [Heading.type.inj hname] at hfixed
      exact absurd (by decide) hfixed
  · constructor
    · intro hnil
      cases hnil
    · rintro ⟨hname, -⟩
      exact absurd (Heading.type.inj hname) (by decide)
  · rw [h.subscriptions]
    constructor
    · exact fun hnil => ⟨rfl, List.map_eq_nil_iff.1 hnil⟩
    · exact fun hnil => List.map_eq_nil_iff.2 hnil.2

theorem exists_empty_iff (h : WellFormed settings s) :
    (∃ d ∈ definitions s, d.members = []) ↔ s.queryFields = [] := by
  constructor
  · rintro ⟨d, hd, hempty⟩
    exact ((empty_iff h hd).1 hempty).2
  · intro hfields
    have hmem : subscriptionDefinition s.subscriptionFields ∈ definitions s := by
      simp [definitions]
    exact ⟨_, hmem, (empty_iff h hmem).2 ⟨rfl, hfields⟩⟩

/-! ## Documents of assembled schemas -/

/-- No description of a column holds a carriage return. -/
def ReturnFree (s : Generated) : Prop :=
  ∀ type ∈ s.objectTypes, ∀ field ∈ type.fields, ∀ text ∈ field.description, '\r' ∉ text.toList

theorem fitsLines_true_iff (s : Generated) : fitsLines true s = true ↔ ReturnFree s := by
  have hline (text : String) : fitsLine true text = true ↔ '\r' ∉ text.toList := by
    simp only [fitsLine, isReturn, Bool.true_and, List.all_eq_true, Bool.not_eq_true',
      beq_eq_false_iff_ne]
    exact ⟨fun h hmem => h _ hmem rfl, fun h c hc heq => h (heq ▸ hc)⟩
  simp only [fitsLines, ReturnFree, List.all_eq_true]
  refine forall₂_congr fun type _ => forall₂_congr fun field _ => ?_
  cases field.description with
  | none => simp [fitsDescription]
  | some text => simpa [fitsDescription] using hline text

/-- But for empty blocks, the document of an assembled schema follows the grammar if no description
of a column holds a carriage return; otherwise only a lenient reader reads it. What it defines hangs
together. A block without members, which the grammar has not, is that of subscriptions, and there is
one exactly if no table is exposed. -/
theorem document_coherent {σ : Type} (w : Walker σ) (session : Session σ)
    (hignore : settings.ignoreInvalid = true) (h : (assemble w settings session).1 = .ok s) :
    ∃ defs, read false (document s) = some defs ∧
      (ReturnFree s → read true (document s) = some defs) ∧
      (¬ ReturnFree s → read true (document s) = none) ∧
      Coherent defs ∧
      (∀ d ∈ defs, d.members = [] → d.heading = .type "Subscription") ∧
      ((∃ d ∈ defs, d.members = []) ↔ s.queryFields = []) := by
  have hassembled := assembled_of_assemble h
  have hstrict := read_document hassembled hignore true
  refine ⟨definitions s, ?_, ?_, ?_, coherent_definitions hassembled hignore, ?_,
    exists_empty_iff hassembled.wellFormed⟩
  · rw [read_document hassembled hignore false, if_pos (fitsLines_false s)]
  · intro hfree
    rw [hstrict, if_pos ((fitsLines_true_iff s).2 hfree)]
  · intro hreturn
    rw [hstrict, if_neg (mt (fitsLines_true_iff s).1 hreturn)]
  · exact fun d hd hempty => ((empty_iff hassembled.wellFormed hd).1 hempty).1

/-- One table, with a column of maps. -/
theorem document_coherent_visits :
    let f : Fixture := ⟨[("hive", [("web", [("visits", [⟨"id", "bigint"⟩,
      ⟨"tags", "array(map(varchar,varchar))"⟩])])])], [], []⟩
    ∃ schema defs,
      (assemble ⟨Fixture.source, ⟨false, true⟩⟩ .standard (.start f Cache.Store.empty)).1 =
        .ok schema ∧
      read true (document schema) = some defs ∧ Coherent defs ∧ ∀ d ∈ defs, d.members ≠ [] := by
  intro f
  let t : TableRef := ⟨"hive", "web", "visits"⟩
  let type : ObjectType := ⟨"hive_web_visits",
    [fieldOf ⟨t.catalog, t.schema, t.table, "id", "bigint"⟩,
      fieldOf ⟨t.catalog, t.schema, t.table, "tags", "array(map(varchar,varchar))"⟩]⟩
  let schema : Generated := ⟨["hive"], [keyValueType, type], [.forTable t], [.forTable t]⟩
  have hrun : (assemble ⟨Fixture.source, ⟨false, true⟩⟩ .standard
      (.start f Cache.Store.empty)).1 = .ok schema := by
    decide +kernel
  have hfree : ReturnFree schema := (fitsLines_true_iff schema).1 (by decide +kernel)
  obtain ⟨defs, -, hread, -, hcoherent, -, hempty⟩ := document_coherent _ _ rfl hrun
  refine ⟨schema, defs, hrun, hread hfree, hcoherent, fun d hd hnil => ?_⟩
  exact absurd (hempty.1 ⟨d, hd, hnil⟩) (List.cons_ne_nil _ _)

/-- A source without catalogs: the document can be read, but its type of subscriptions is empty. And
a source with a carriage return in a native type: the document breaks the line of a description. -/
theorem subscriptions_empty :
    let w : Walker Fixture := ⟨Fixture.source, ⟨false, true⟩⟩
    let f : Fixture := ⟨[("c", [("s", [("t", [⟨"id", "big\rint"⟩])])])], [], []⟩
    (∃ schema defs, (assemble w .standard (.start .empty Cache.Store.empty)).1 = .ok schema ∧
      read true (document schema) = some defs ∧
      ∃ d ∈ defs, d.heading = .type "Subscription" ∧ d.members = []) ∧
    ∃ schema, (assemble w .standard (.start f Cache.Store.empty)).1 = .ok schema ∧
      read true (document schema) = none := by
  intro w f
  constructor
  · let schema : Generated := ⟨[], [], [], []⟩
    have hrun : (assemble w .standard (.start .empty Cache.Store.empty)).1 = .ok schema := by
      decide +kernel
    have hread := read_document (assembled_of_assemble hrun) rfl true
    have hmem : subscriptionDefinition [] ∈ definitions schema := by simp [definitions, schema]
    exact ⟨schema, definitions schema, hrun, hread, _, hmem, rfl, rfl⟩
  · let t : TableRef := ⟨"c", "s", "t"⟩
    let type : ObjectType := ⟨"c_s_t", [fieldOf ⟨t.catalog, t.schema, t.table, "id", "big\rint"⟩]⟩
    let schema : Generated := ⟨["c"], [type], [.forTable t], [.forTable t]⟩
    have hrun : (assemble w .standard (.start f Cache.Store.empty)).1 = .ok schema := by
      decide +kernel
    have hread := read_document (assembled_of_assemble hrun) rfl true
    have hfits : fitsLines true schema = false := by decide +kernel
    rw [hfits] at hread
    exact ⟨schema, hrun, hread⟩

end CatalogGraph.Schema
