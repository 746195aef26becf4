import CatalogGraph.Proofs.AssemblyTrails
import CatalogGraph.Proofs.DocumentPrinter
import CatalogGraph.Proofs.WellFormed

/-!
# What the document of a schema defines

The document of a schema is the text of definitions: the root types, the operators and the input
type of filters, the object types, and the two types of root fields. For a schema that is assembled
with names outside the grammar passed over, the document is read as just these definitions
(`read_document`), unless a description of a column holds a carriage return that ends its line.
-/

namespace CatalogGraph

open Syntax

/-- The type of a field as it is written in a schema document. -/
def OutputType.written : OutputType → Written
  | .scalar kind => .named kind.name false
  | .list inner => .list inner.written false
  | .object name => .named name false

theorem OutputType.text_written (type : OutputType) : type.written.text = type.render := by
  induction type with
  | scalar kind => exact String.append_empty
  | list inner ih => rw [written, Written.text, ih, requiredText, render]; exact String.append_empty
  | object name => exact String.append_empty

theorem OutputType.target_written (type : OutputType) :
    (∃ kind : ScalarKind, type.written.target = kind.name) ∨
      type.objectName? = some type.written.target := by
  induction type with
  | scalar kind => exact .inl ⟨kind, rfl⟩
  | list inner ih => exact ih
  | object name => exact .inr rfl

end CatalogGraph

namespace CatalogGraph.Schema

open Discovery Syntax

/-! ## Definitions of a schema -/

def rootsDefinition : Definition :=
  ⟨none, .schema, [⟨none, "query", [], some (.named "Query" false)⟩,
    ⟨none, "subscription", [], some (.named "Subscription" false)⟩]⟩

def operatorMember (op : Query.Operator) : Member := ⟨some op.description, op.schemaName, [], none⟩

def operatorDefinition : Definition :=
  ⟨some "SQL-compatible filter operations", .enum filterOperatorName,
    Query.Operator.all.map operatorMember⟩

def filterDefinition : Definition :=
  ⟨none, .input filterInputName,
    [⟨some "Column name", "field", [], some (.named "String" true)⟩,
     ⟨some "Filter operation", "operator", [], some (.named filterOperatorName true)⟩,
     ⟨none, "stringValue", [], some (.named "String" false)⟩,
     ⟨none, "intValue", [], some (.named "Int" false)⟩,
     ⟨none, "floatValue", [], some (.named "Float" false)⟩,
     ⟨none, "booleanValue", [], some (.named "Boolean" false)⟩,
     ⟨some "ISO 8601 date", "dateValue", [], some (.named "String" false)⟩,
     ⟨some "List of values for IN, BETWEEN, etc.", "values", [],
       some (.list (.named "String" false) false)⟩]⟩

/-- The definitions that are the same for all schemas. -/
def fixedDefinitions : List Definition := [rootsDefinition, operatorDefinition, filterDefinition]

def fieldMember (field : FieldDef) : Member :=
  ⟨field.description, field.name, [], some field.type.written⟩

def objectDefinition (type : ObjectType) : Definition :=
  ⟨none, .type type.name, type.fields.map fieldMember⟩

/-- The root field of a table. -/
def tableMember (t : TableRef) : Member :=
  ⟨some (RootField.forTable t).description, t.typeName,
    [⟨"limit", .named "Int" false⟩, ⟨"filters", .list (.named filterInputName false) false⟩],
    some (.list (.named t.typeName false) false)⟩

def catalogsMember : Member :=
  ⟨some "Catalogs available for querying", "catalogs", [],
    some (.list (.named "String" false) false)⟩

def queryDefinition (fields : List RootField) : Definition :=
  ⟨none, .type "Query", catalogsMember :: fields.map fun field => tableMember field.table⟩

def subscriptionDefinition (fields : List RootField) : Definition :=
  ⟨none, .type "Subscription", fields.map fun field => tableMember field.table⟩

def definitions (s : Generated) : List Definition :=
  fixedDefinitions ++ s.objectTypes.map objectDefinition ++
    [queryDefinition s.queryFields, subscriptionDefinition s.subscriptionFields]

/-! ## The document is their text -/

theorem lines_fieldMember (field : FieldDef) : (fieldMember field).lines = fieldLines field := by
  have htype : typeText (fieldMember field).type = ": " ++ field.type.render := by
    rw [fieldMember, typeText, OutputType.text_written]
  unfold Member.lines fieldLines
  rw [htype]
  simp [fieldMember, parametersText, String.append_assoc]

theorem text_objectDefinition (type : ObjectType) :
    (objectDefinition type).text = objectBlock type := by
  have hlines : (type.fields.map fieldMember).flatMap Member.lines =
      type.fields.flatMap fieldLines := by
    rw [List.flatMap_map]
    exact List.flatMap_congr fun field _ => lines_fieldMember field
  rw [objectDefinition, Definition.text_bare, hlines]
  rfl

theorem lines_tableMember (t : TableRef) :
    (tableMember t).lines = rootFieldLines (RootField.forTable t) := by
  have hargs : parametersText (tableMember t).parameters =
      "(" ++ String.intercalate ", " (tableArguments.map fun a => a.name ++ ": " ++ a.type) ++
        ")" := rfl
  have htype : typeText (tableMember t).type = ": " ++ (RootField.forTable t).type.render :=
    congrArg (": " ++ ·) (OutputType.text_written (.list (.object t.typeName)))
  have hclose (rest : String) : ")" ++ (": " ++ rest) = "): " ++ rest := by
    rw [← String.append_assoc]
    rfl
  unfold Member.lines rootFieldLines
  rw [hargs, htype]
  simp [tableMember, RootField.forTable, String.append_assoc, hclose]

/-- The root fields are those of tables. -/
def OfTables (fields : List RootField) : Prop :=
  ∀ field ∈ fields, field = RootField.forTable field.table

theorem lines_tables {fields : List RootField} (h : OfTables fields) :
    (fields.map fun field => tableMember field.table).flatMap Member.lines =
      fields.flatMap rootFieldLines := by
  rw [List.flatMap_map]
  refine List.flatMap_congr fun field hfield => ?_
  rw [lines_tableMember, ← h field hfield]

theorem text_queryDefinition {fields : List RootField} (h : OfTables fields) :
    (queryDefinition fields).text = queryBlock fields := by
  have hcatalogs : catalogsMember.lines =
      [descriptionLine "Catalogs available for querying", memberLine "catalogs: [String]"] := rfl
  rw [queryDefinition, Definition.text_bare, List.flatMap_cons, hcatalogs, lines_tables h]
  rfl

theorem text_subscriptionDefinition {fields : List RootField} (h : OfTables fields) :
    (subscriptionDefinition fields).text = subscriptionBlock fields := by
  rw [subscriptionDefinition, Definition.text_bare, lines_tables h]
  rfl

theorem text_rootsDefinition : rootsDefinition.text = rootsBlock := by decide +kernel

theorem lines_operatorMember (op : Query.Operator) : (operatorMember op).lines =
    [descriptionLine op.description, memberLine op.schemaName] := by
  simp [operatorMember, Member.lines, parametersText, typeText]

theorem text_operatorDefinition : operatorDefinition.text = operatorBlock := by
  have hlines : (Query.Operator.all.map operatorMember).flatMap Member.lines =
      Query.Operator.all.flatMap fun op =>
        [descriptionLine op.description, memberLine op.schemaName] := by
    rw [List.flatMap_map]
    exact List.flatMap_congr fun op _ => lines_operatorMember op
  have hdescription : quotedLine "SQL-compatible filter operations" =
      "\"SQL-compatible filter operations\"\n" := by decide +kernel
  have htext : operatorDefinition.text =
      String.join [quotedLine "SQL-compatible filter operations"] ++
        block ("enum " ++ filterOperatorName)
          ((Query.Operator.all.map operatorMember).flatMap Member.lines) := rfl
  rw [htext, hlines, hdescription, String.join_cons, String.join_nil, String.append_empty]
  rfl

theorem text_filterDefinition : filterDefinition.text = filterBlock := by decide +kernel

theorem document_eq_printed {s : Generated} (hquery : OfTables s.queryFields)
    (hsubscription : OfTables s.subscriptionFields) : document s = printed (definitions s) := by
  have hobjects : (s.objectTypes.map objectDefinition).map (fun d => "\n" ++ d.text) =
      s.objectTypes.map fun type => "\n" ++ objectBlock type := by
    rw [List.map_map]
    refine List.map_congr_left fun type _ => ?_
    rw [Function.comp_apply, text_objectDefinition]
  change _ = rootsDefinition.text ++ String.join (List.map (fun d => "\n" ++ d.text)
    ([operatorDefinition, filterDefinition] ++ s.objectTypes.map objectDefinition ++
      [queryDefinition s.queryFields, subscriptionDefinition s.subscriptionFields]))
  rw [List.map_append, List.map_append, hobjects]
  simp only [List.map_cons, List.map_nil, String.join_append, String.join_cons, String.join_nil,
    text_rootsDefinition, text_operatorDefinition, text_filterDefinition,
    text_queryDefinition hquery, text_subscriptionDefinition hsubscription, document, documentHead,
    documentTail, String.append_assoc, String.append_empty]

/-! ## Assembled schemas -/

/-- What an assembly makes: a well-formed schema whose root fields are those of tables with names
that may be used. -/
structure Assembled (settings : Settings) (schema : Generated) : Prop where
  wellFormed : WellFormed settings schema
  tables : OfTables schema.queryFields
  allowed : ∀ field ∈ schema.queryFields, Allowed settings field.table

theorem ofTables_fields (r : Registry) : OfTables r.fields := by
  intro field hfield
  obtain ⟨entry, -, rfl⟩ := List.mem_map.1 hfield
  rfl

theorem gives_assemble {σ : Type} (w : Walker σ) (settings : Settings) :
    Gives (assemble w settings) fun schema =>
      WellFormed settings schema ∧ OfTables schema.queryFields := by
  refine .after _ fun catalogs => ?_
  have hstart : Consistent settings [] := consistent_nil
  have hwalk := gives_addCatalogs w (sortNames catalogs) hstart
  refine hwalk.andThen (fun _ => rfl) ?_
  rintro ⟨visible, r⟩ ⟨hvisible, hr⟩
  exact .after _ fun _ => .ok ⟨wellFormed_schema hr hvisible, ofTables_fields r⟩

theorem allowed_of_opened {settings : Settings} {trail : Trail} {t : TableRef}
    (h : Opened settings trail t.lookup) : Allowed settings t := by
  unfold TableRef.lookup at h
  cases h with
  | columns htables _ htable =>
    cases htables with
    | tables hschemas _ hschema =>
      cases hschemas with
      | schemas _ hcatalog =>
        exact ⟨(Bool.and_eq_true_iff.1 hcatalog).2, (Bool.and_eq_true_iff.1 hschema).2, htable⟩

theorem assembled_of_assemble {σ : Type} {w : Walker σ} {settings : Settings} {s : Session σ}
    {schema : Generated} (h : (assemble w settings s).1 = .ok schema) :
    Assembled settings schema := by
  obtain ⟨hwell, htables⟩ := gives_assemble w settings s schema h
  obtain ⟨trail, -, -, hroots⟩ := leaves_assemble settings σ w s
  refine ⟨hwell, htables, fun field hfield => ?_⟩
  exact allowed_of_opened (hroots schema h field (List.mem_append_left _ hfield))

/-! ## Reading the document -/

theorem fitsLine_append (returns : Bool) (a b : String) :
    fitsLine returns (a ++ b) = (fitsLine returns a && fitsLine returns b) := by
  rw [fitsLine, String.toList_append, List.all_append]
  rfl

theorem fitsLine_of_isValid (returns : Bool) {name : String} (h : Name.isValid name = true) :
    fitsLine returns name = true := by
  have hrest := List.all_eq_true.1 (Name.all_isRest_of_isValidChars h)
  refine List.all_eq_true.2 fun c hc => ?_
  have hne : c ≠ '\r' := by
    rintro rfl
    exact absurd (hrest _ hc) (by decide)
  simp [isReturn, hne]

variable {settings : Settings} {s : Generated} {t : TableRef}

theorem fitsLine_description (returns : Bool) (ht : Allowed settings t)
    (hignore : settings.ignoreInvalid = true) :
    fitsLine returns (RootField.forTable t).description = true := by
  have hfixed : fitsLine returns "Catalog: " = true ∧ fitsLine returns ", Schema: " = true ∧
      fitsLine returns ", Table: " = true := by
    cases returns <;> decide
  have hname {name : String} (h : nameAllowed settings name = true) :=
    fitsLine_of_isValid returns (isValid_of_nameAllowed hignore h)
  simp only [RootField.forTable, fitsLine_append, hfixed, hname ht.catalog, hname ht.schema,
    hname ht.table, Bool.and_self]

theorem legible_fixed : ∀ d ∈ fixedDefinitions, d.Legible := by decide +kernel

theorem legible_objectDefinition {type : ObjectType} (h : Fit settings type)
    (hignore : settings.ignoreInvalid = true) : (objectDefinition type).Legible := by
  obtain ⟨hname, hfields⟩ := h.valid hignore
  refine ⟨fun name hmem => Option.some.inj hmem ▸ hname, ?_, ?_⟩
  · intro m hm
    obtain ⟨field, hfield, rfl⟩ := List.mem_map.1 hm
    refine ⟨hfields field hfield, nofun, ?_⟩
    rintro _ ⟨⟩
    rcases field.type.target_written with ⟨kind, htarget⟩ | hobject
    · rw [htarget]
      cases kind <;> decide
    · rw [h.references field hfield _ hobject]
      decide
  · simp [Definition.Proper, objectDefinition, Heading.takes, fieldMember]

theorem legible_tableMember (ht : Allowed settings t) (hignore : settings.ignoreInvalid = true) :
    (tableMember t).Legible := by
  have hname := isValid_typeName ht hignore
  refine ⟨hname, ?_, fun type htype => ?_⟩
  · change ∀ p ∈ [_, _], Parameter.Legible p
    decide
  · cases htype
    exact hname

/-- The two types of root fields. -/
theorem legible_rootFields {name : String} (first : List Member) {fields : List RootField}
    (hname : Name.isValid name = true) (hfirst : ∀ m ∈ first, m.Legible ∧ m.type.isSome = true)
    (hfields : ∀ field ∈ fields, (tableMember field.table).Legible) :
    (⟨none, .type name, first ++ fields.map fun field => tableMember field.table⟩ :
      Definition).Legible := by
  refine ⟨fun other hother => Option.some.inj hother ▸ hname, ?_, ?_⟩
  · intro m hm
    rcases List.mem_append.1 hm with hm | hm
    · exact (hfirst m hm).1
    · obtain ⟨field, hfield, rfl⟩ := List.mem_map.1 hm
      exact hfields field hfield
  · refine List.all_eq_true.2 fun m hm => ?_
    rcases List.mem_append.1 hm with hm | hm
    · exact (hfirst m hm).2
    · obtain ⟨field, -, rfl⟩ := List.mem_map.1 hm
      rfl

theorem legible_definitions (h : Assembled settings s) (hignore : settings.ignoreInvalid = true) :
    ∀ d ∈ definitions s, d.Legible := by
  have hfields : ∀ field ∈ s.queryFields, (tableMember field.table).Legible :=
    fun field hfield => legible_tableMember (h.allowed field hfield) hignore
  have hcatalogs : ∀ m ∈ [catalogsMember], m.Legible ∧ m.type.isSome = true := by decide
  have hquery : (queryDefinition s.queryFields).Legible :=
    legible_rootFields [catalogsMember] (by decide) hcatalogs hfields
  have hsubscription : (subscriptionDefinition s.queryFields).Legible :=
    legible_rootFields [] (by decide) nofun hfields
  unfold definitions
  rw [h.wellFormed.subscriptions]
  intro d hd
  simp only [List.mem_append, List.mem_map, List.mem_cons, List.not_mem_nil, or_false] at hd
  rcases hd with (hd | ⟨type, htype, rfl⟩) | rfl | rfl
  · exact legible_fixed d hd
  · exact legible_objectDefinition (h.wellFormed.types_fit type htype) hignore
  · exact hquery
  · exact hsubscription

/-- Whether the descriptions of all columns stay on their lines. -/
def fitsLines (returns : Bool) (s : Generated) : Bool :=
  s.objectTypes.all fun type => type.fields.all fun field =>
    fitsDescription returns field.description

theorem fitsLines_false (s : Generated) : fitsLines false s = true := by
  refine List.all_eq_true.2 fun type _ => List.all_eq_true.2 fun field _ => ?_
  exact fitsDescription_false field.description

theorem all_fits_definitions (h : Assembled settings s) (hignore : settings.ignoreInvalid = true)
    (returns : Bool) : (definitions s).all (Definition.fits returns) = fitsLines returns s := by
  have hfixed : fixedDefinitions.all (Definition.fits returns) = true := by
    cases returns <;> decide +kernel
  have hcatalogs : fitsDescription returns catalogsMember.description = true := by
    cases returns <;> decide
  have hfields : ((s.queryFields.map fun field => tableMember field.table).all
      fun m => fitsDescription returns m.description) = true := by
    refine List.all_eq_true.2 fun m hm => ?_
    obtain ⟨field, hfield, rfl⟩ := List.mem_map.1 hm
    exact fitsLine_description returns (h.allowed field hfield) hignore
  have hquery : (queryDefinition s.queryFields).fits returns = true := by
    rw [Definition.fits, queryDefinition, List.all_cons, hcatalogs, hfields]
    rfl
  have hsubscription : (subscriptionDefinition s.queryFields).fits returns = true := by
    rw [Definition.fits, subscriptionDefinition, hfields]
    rfl
  have hobjects : (s.objectTypes.map objectDefinition).all (Definition.fits returns) =
      fitsLines returns s := by
    rw [List.all_map, fitsLines]
    refine List.all_congr rfl fun type => ?_
    change (true && (type.fields.map fieldMember).all _) = _
    rw [Bool.true_and, List.all_map]
    rfl
  unfold definitions
  rw [h.wellFormed.subscriptions, List.all_append, List.all_append, hfixed, hobjects]
  simp only [List.all_cons, hquery, hsubscription, List.all_nil, Bool.and_true, Bool.true_and]

/-- The document of an assembled schema is read as its definitions, if the descriptions of all
columns stay on their lines, and is refused otherwise. -/
theorem read_document (h : Assembled settings s) (hignore : settings.ignoreInvalid = true)
    (returns : Bool) :
    read returns (document s) = if fitsLines returns s then some (definitions s) else none := by
  have hsubscription : OfTables s.subscriptionFields := by
    rw [h.wellFormed.subscriptions]
    exact h.tables
  rw [document_eq_printed h.tables hsubscription, read_printed (legible_definitions h hignore),
    all_fits_definitions h hignore]

end CatalogGraph.Schema
