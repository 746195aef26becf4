import CatalogGraph.Discovery.Fixture
import CatalogGraph.Proofs.CacheKeys
import CatalogGraph.Proofs.DocumentContents

/-!
# Documents lose nothing

Two schemas with one document are the same but for their lists of catalogs, which a document does
not show. The document determines its definitions, and definitions determine what they were made
of: a written type that is no scalar refers to map entries, and the description of a root field
ends each name of its table at a comma, which no name holds.
-/

namespace CatalogGraph

theorem ScalarKind.name_injective {kind other : ScalarKind} (h : kind.name = other.name) :
    kind = other := by
  cases kind <;> cases other <;> first | rfl | exact absurd h (by decide)

theorem ScalarKind.name_ne_keyValueName (kind : ScalarKind) : kind.name ≠ keyValueName := by
  cases kind <;> decide

namespace OutputType

/-- The type refers to no other object type than that of map entries. -/
def Closed (type : OutputType) : Prop := ∀ name, type.objectName? = some name → name = keyValueName

/-- Types that are written in the same way are equal. -/
theorem written_injective {type other : OutputType} (htype : type.Closed) (hother : other.Closed)
    (h : type.written = other.written) : type = other := by
  induction type generalizing other with
  | scalar kind =>
    cases other with
    | scalar kind' =>
      rw [ScalarKind.name_injective (Syntax.Written.named.inj h).1]
    | list inner => cases h
    | object name =>
      have hname := (Syntax.Written.named.inj h).1
      rw [hother name rfl] at hname
      exact absurd hname kind.name_ne_keyValueName
  | list inner ih =>
    cases other with
    | scalar kind => cases h
    | list inner' =>
      have hinner : inner = inner' := ih htype hother (Syntax.Written.list.inj h).1
      rw [hinner]
    | object name => cases h
  | object name =>
    cases other with
    | scalar kind =>
      have hname := (Syntax.Written.named.inj h).1
      rw [htype name rfl] at hname
      exact absurd hname.symm kind.name_ne_keyValueName
    | list inner => cases h
    | object name' => rw [(Syntax.Written.named.inj h).1]

end OutputType

end CatalogGraph

namespace CatalogGraph.Schema

open Discovery Syntax

variable {settings settings' : Settings} {first second : Generated}

/-! ## Members determine what they were made of -/

theorem fieldMember_injective {field other : FieldDef} (hfield : field.type.Closed)
    (hother : other.type.Closed) (h : fieldMember field = fieldMember other) : field = other := by
  obtain ⟨hdescription, hname, -, htype⟩ := Member.mk.inj h
  have hwritten := OutputType.written_injective hfield hother (Option.some.inj htype)
  cases field
  cases other
  simp_all

theorem eq_of_map_eq {α β : Type} {f : α → β} {xs ys : List α}
    (hinj : ∀ x ∈ xs, ∀ y ∈ ys, f x = f y → x = y) (h : xs.map f = ys.map f) : xs = ys := by
  induction xs generalizing ys with
  | nil => exact (List.map_eq_nil_iff.1 h.symm).symm
  | cons x xs ih =>
    cases ys with
    | nil => cases h
    | cons y ys =>
      obtain ⟨hhead, htail⟩ := List.cons.inj h
      have hrest := ih (fun a ha b hb => hinj a (List.mem_cons_of_mem x ha) b
        (List.mem_cons_of_mem y hb)) htail
      rw [hinj x List.mem_cons_self y List.mem_cons_self hhead, hrest]

theorem objectDefinition_injective {type other : ObjectType} (htype : Fit settings type)
    (hother : Fit settings' other) (h : objectDefinition type = objectDefinition other) :
    type = other := by
  obtain ⟨-, hheading, hmembers⟩ := Definition.mk.inj h
  have hfields : type.fields = other.fields := by
    refine eq_of_map_eq (fun field hfield field' hfield' hmember => ?_) hmembers
    exact fieldMember_injective (htype.references field hfield) (hother.references field' hfield')
      hmember
  cases type
  cases other
  rw [ObjectType.mk.injEq]
  exact ⟨Heading.type.inj hheading, hfields⟩

theorem comma_not_mem {name : String} (h : Name.isValid name = true) : ',' ∉ name.toList := by
  intro hmem
  have hrest := List.all_eq_true.1 (Name.all_isRest_of_isValidChars h) _ hmem
  exact absurd hrest (by decide)

/-- The description of a root field tells its table. -/
theorem tableMember_injective {t u : TableRef} (ht : Allowed settings t)
    (hu : Allowed settings' u) (hsettings : settings.ignoreInvalid = true)
    (hsettings' : settings'.ignoreInvalid = true) (h : tableMember t = tableMember u) : t = u := by
  have hdescription := congrArg String.toList (Option.some.inj (Member.mk.inj h).1)
  have hchars (v : TableRef) : (RootField.forTable v).description.toList =
      "Catalog: ".toList ++ (v.catalog.toList ++ ',' :: (" Schema: ".toList ++
        (v.schema.toList ++ ',' :: (" Table: ".toList ++ v.table.toList)))) := by
    simp [RootField.forTable]
  rw [hchars, hchars] at hdescription
  have hname {name : String} (hallowed : nameAllowed settings name = true) :=
    comma_not_mem (isValid_of_nameAllowed hsettings hallowed)
  have hname' {name : String} (hallowed : nameAllowed settings' name = true) :=
    comma_not_mem (isValid_of_nameAllowed hsettings' hallowed)
  obtain ⟨hcatalog, hafter⟩ := Cache.Path.append_separator_injective (hname ht.catalog)
    (hname' hu.catalog) (List.append_cancel_left hdescription)
  obtain ⟨hschema, hlast⟩ := Cache.Path.append_separator_injective (hname ht.schema)
    (hname' hu.schema) (List.append_cancel_left hafter)
  have htable := List.append_cancel_left hlast
  cases t
  cases u
  rw [TableRef.mk.injEq]
  exact ⟨String.toList_injective hcatalog, String.toList_injective hschema,
    String.toList_injective htable⟩

/-! ## Definitions determine the schema -/

theorem definitions_parts (h : definitions first = definitions second) :
    first.objectTypes.map objectDefinition = second.objectTypes.map objectDefinition ∧
      queryDefinition first.queryFields = queryDefinition second.queryFields := by
  obtain ⟨hhead, htail⟩ := List.append_inj' h rfl
  exact ⟨List.append_cancel_left hhead, (List.cons.inj htail).1⟩

/-- Two schemas with one document have the same object types and the same root fields, whatever
sources they were assembled from. -/
theorem document_faithful {σ τ : Type} (w : Walker σ) (v : Walker τ) (s : Session σ)
    (t : Session τ) (hsettings : settings.ignoreInvalid = true)
    (hsettings' : settings'.ignoreInvalid = true) (hfirst : (assemble w settings s).1 = .ok first)
    (hsecond : (assemble v settings' t).1 = .ok second) (h : document first = document second) :
    first.objectTypes = second.objectTypes ∧ first.queryFields = second.queryFields ∧
      first.subscriptionFields = second.subscriptionFields := by
  have hleft := assembled_of_assemble hfirst
  have hright := assembled_of_assemble hsecond
  -- Read without regard to carriage returns: then no description makes a document unreadable.
  have hread := read_document hleft hsettings false
  rw [h, read_document hright hsettings' false, fitsLines_false, fitsLines_false, if_pos rfl,
    if_pos rfl] at hread
  obtain ⟨hobjects, hquery⟩ := definitions_parts (Option.some.inj hread.symm)
  have htypes : first.objectTypes = second.objectTypes := by
    refine eq_of_map_eq (fun type htype other hother heq => ?_) hobjects
    exact objectDefinition_injective (hleft.wellFormed.types_fit type htype)
      (hright.wellFormed.types_fit other hother) heq
  have hfields : first.queryFields = second.queryFields := by
    obtain ⟨-, -, hmembers⟩ := Definition.mk.inj hquery
    refine eq_of_map_eq (fun field hfield other hother heq => ?_) (List.cons.inj hmembers).2
    have htable := tableMember_injective (hleft.allowed field hfield)
      (hright.allowed other hother) hsettings hsettings' heq
    rw [hleft.tables field hfield, hright.tables other hother, htable]
  refine ⟨htypes, hfields, ?_⟩
  rw [hleft.wellFormed.subscriptions, hright.wellFormed.subscriptions, hfields]

/-- A native type that imitates the end of its description, a field and the end of the block. The
second source has a column without a proper name more, and a catalog that fails. -/
theorem document_faithful_imitation :
    let native := "text\"\n  other: Int\n\x7d"
    let f : Fixture := ⟨[("c", [("s", [("t", [⟨"id", native⟩])])])], [], []⟩
    let g : Fixture := ⟨[("c", [("s", [("t", [⟨"id", native⟩, ⟨"no-name", native⟩])])]),
      ("d", [])], ["d"], []⟩
    let w : Walker Fixture := ⟨Fixture.source, ⟨false, true⟩⟩
    ∃ first second, (assemble w .standard (.start f Cache.Store.empty)).1 = .ok first ∧
      (assemble w .standard (.start g Cache.Store.empty)).1 = .ok second ∧
      first.catalogs ≠ second.catalogs ∧ document first = document second ∧
      first.objectTypes = second.objectTypes ∧ first.queryFields = second.queryFields ∧
      first.subscriptionFields = second.subscriptionFields := by
  intro native f g w
  let t : TableRef := ⟨"c", "s", "t"⟩
  let type : ObjectType := ⟨"c_s_t", [fieldOf ⟨t.catalog, t.schema, t.table, "id", native⟩]⟩
  let schema (catalogs : List String) : Generated :=
    ⟨catalogs, [type], [.forTable t], [.forTable t]⟩
  have hfirst : (assemble w .standard (.start f Cache.Store.empty)).1 = .ok (schema ["c"]) := by
    decide +kernel
  have hsecond : (assemble w .standard (.start g Cache.Store.empty)).1 =
      .ok (schema ["c", "d"]) := by
    decide +kernel
  have hdocument : document (schema ["c"]) = document (schema ["c", "d"]) := rfl
  have hsame := document_faithful w w _ _ rfl rfl hfirst hsecond hdocument
  have hcatalogs : (schema ["c"]).catalogs ≠ (schema ["c", "d"]).catalogs := by
    simp [schema]
  exact ⟨_, _, hfirst, hsecond, hcatalogs, hdocument, hsame⟩

end CatalogGraph.Schema
