import CatalogGraph.Proofs.AssemblyTrails
import CatalogGraph.Proofs.Translation

/-!
# Inclusion and exclusion lists

What an assembly asks of the source keeps to the lists of its settings, and so do the queries that
are translated for the root fields of its schema (`lists_enforced`). A name is restored in the same
way where it is compared with the lists, where it reaches the source and where it stands in a query,
so the name that is compared is the name that is used.
-/

namespace CatalogGraph.Schema

open Discovery Query Sql

variable {σ : Type} {settings : Settings} {trail : Trail}

/-! ## Admitted names -/

/-- The engine may be asked for the raw name that was discovered under the other name: neither of
them is excluded, and one of them is included where names are listed for inclusion. -/
structure Admitted (included : Option (List String)) (excluded : List String) (name raw : String) :
    Prop where
  restores : Name.restore name = raw
  name_free : name ∉ excluded
  raw_free : raw ∉ excluded
  listed : ∀ entries, included = some entries → raw ∈ entries ∨ name ∈ entries

theorem lists_iff {entries : List String} {name : String} :
    Settings.lists entries name = true ↔ Name.restore name ∈ entries ∨ name ∈ entries := by
  simp only [Settings.lists, List.any_eq_true, Bool.or_eq_true, beq_iff_eq]
  constructor
  · rintro ⟨entry, hentry, rfl | rfl⟩
    · exact Or.inr hentry
    · exact Or.inl hentry
  · rintro (hraw | hname)
    · exact ⟨_, hraw, Or.inr rfl⟩
    · exact ⟨_, hname, Or.inl rfl⟩

theorem allows_iff {included : Option (List String)} {excluded : List String} {name : String} :
    Settings.allows included excluded name = true ↔
      Admitted included excluded name (Name.restore name) := by
  have hexcluded : (!Settings.lists excluded name) = true ↔
      Name.restore name ∉ excluded ∧ name ∉ excluded := by
    rw [Bool.not_eq_true', ← Bool.not_eq_true, lists_iff, not_or]
  unfold Settings.allows
  rw [Bool.and_eq_true, hexcluded, Option.all_eq_true]
  constructor
  · rintro ⟨⟨hraw, hname⟩, hlisted⟩
    exact ⟨rfl, hname, hraw, fun entries hentries => lists_iff.1 (hlisted entries hentries)⟩
  · intro h
    refine ⟨⟨h.raw_free, h.name_free⟩, ?_⟩
    exact fun entries hentries => lists_iff.2 (h.listed entries hentries)

def CatalogAdmitted (settings : Settings) (name raw : String) : Prop :=
  Admitted settings.includeCatalogs settings.excludeCatalogs name raw

def SchemaAdmitted (settings : Settings) (name raw : String) : Prop :=
  Admitted settings.includeSchemas settings.excludeSchemas name raw

/-! ## Lookups that are opened -/

section Opened

variable {catalog schema table : String}

theorem Opened.schemas_of_tables (h : Opened settings trail (.tables catalog schema)) :
    Opened settings trail (.schemas catalog) := by
  cases h
  assumption

theorem Opened.tables_of_columns (h : Opened settings trail (.columns catalog schema table)) :
    Opened settings trail (.tables catalog schema) := by
  cases h
  assumption

theorem Opened.catalog_admitted (h : Opened settings trail (.schemas catalog)) :
    Discovered trail .catalogs catalog ∧
      CatalogAdmitted settings catalog (Name.restore catalog) := by
  cases h with
  | schemas hname hexposed =>
    obtain ⟨hallows, -⟩ := Bool.and_eq_true_iff.1 hexposed
    exact ⟨hname, allows_iff.1 hallows⟩

theorem Opened.schema_admitted (h : Opened settings trail (.tables catalog schema)) :
    Discovered trail (.schemas catalog) schema ∧
      SchemaAdmitted settings schema (Name.restore schema) := by
  cases h with
  | tables _ hname hexposed =>
    obtain ⟨hallows, -⟩ := Bool.and_eq_true_iff.1 hexposed
    exact ⟨hname, allows_iff.1 hallows⟩

end Opened

/-! ## Requests -/

def catalogOf? : Request → Option String
  | .schemas catalog => some catalog
  | .tables catalog _ => some catalog
  | .columns catalog _ _ => some catalog
  | _ => none

def schemaOf? : Request → Option String
  | .tables _ schema => some schema
  | .columns _ schema _ => some schema
  | _ => none

/-- The request is for a list, and its catalog and its schema are admitted under names that were
discovered along the trail. -/
structure Granted (settings : Settings) (trail : Trail) (request : Request) : Prop where
  catalog : ∀ raw, catalogOf? request = some raw →
    ∃ name, Discovered trail .catalogs name ∧ CatalogAdmitted settings name raw
  schema : ∀ raw, schemaOf? request = some raw →
    ∃ catalog name, catalogOf? request = some (Name.restore catalog) ∧
      Discovered trail (.schemas catalog) name ∧ SchemaAdmitted settings name raw
  rows : ∀ query, request ≠ .rows query

theorem granted_of_tables {catalog schema : String}
    (h : Opened settings trail (.tables catalog schema)) {request : Request}
    (hcatalog : catalogOf? request = some (Name.restore catalog))
    (hschema : schemaOf? request = some (Name.restore schema))
    (hrows : ∀ query, request ≠ .rows query) : Granted settings trail request := by
  have hcatalogs := h.schemas_of_tables.catalog_admitted
  have hschemas := h.schema_admitted
  refine ⟨?_, ?_, hrows⟩
  · intro raw hraw
    rw [hcatalog] at hraw
    cases hraw
    exact ⟨catalog, hcatalogs⟩
  · intro raw hraw
    rw [hschema] at hraw
    cases hraw
    exact ⟨catalog, schema, hcatalog, hschemas⟩

theorem granted_request {l : Lookup} (h : Opened settings trail l) :
    Granted settings trail l.request := by
  cases l with
  | catalogs => exact ⟨nofun, nofun, nofun⟩
  | schemas catalog =>
    refine ⟨?_, nofun, nofun⟩
    rintro _ ⟨⟩
    exact ⟨catalog, h.catalog_admitted⟩
  | tables catalog schema => exact granted_of_tables h rfl rfl nofun
  | columns catalog schema table => exact granted_of_tables h.tables_of_columns rfl rfl nofun

/-! ## Queries -/

/-- The query asks for rows of the table with these names in the engine, and of no other one. -/
def SelectsFrom (q : Bound) (catalog schema table : String) (limit : Int)
    (filters : List Filter) : Prop :=
  lex q.sql = some ([.word "SELECT", .word "t1", .punctuation '.', .punctuation '*', .word "FROM",
    .quoted catalog, .punctuation '.', .quoted schema, .punctuation '.', .quoted table,
    .word "t1"] ++ joinedLexemes (filters.map Filter.conditionLexemes) ++
    [.word "LIMIT", .integer limit.toNat])

theorem selectsFrom_of_translate {catalog schema table : String} {limit : Int}
    {filters : List Filter} {q : Bound}
    (h : translate catalog schema table limit filters = .ok q) :
    SelectsFrom q (Name.restore catalog) (Name.restore schema) (Name.restore table) limit
      filters := by
  obtain ⟨hlimit, conditions, hconditions, hq⟩ :=
    (translate_eq_ok_iff catalog schema table limit filters q).1 h
  have hsql : q.sql = render (statement catalog schema table limit (conditions.map Prod.fst)) := by
    rw [hq]
  have hlex := lex_statement catalog schema table hlimit hconditions
  rw [← hsql] at hlex
  exact hlex

/-! ## Assemblies -/

/-- The requests of an assembly and the queries for its root fields keep to the lists of the
settings. -/
structure Enforced (w : Walker σ) (settings : Settings) (s : Session σ) (trail : Trail) :
    Prop where
  /-- The assembly goes along the trail. -/
  way : Way (fun _ w => assemble w settings) w s trail
  requests : ∃ asked, (assemble w settings s).2.requests = s.requests ++ asked ∧
    ∀ request ∈ asked, Granted settings trail request
  queries : ∀ schema, (assemble w settings s).1 = .ok schema →
    ∀ field ∈ schema.queryFields ++ schema.subscriptionFields, ∀ limit filters q,
      translate field.table.catalog field.table.schema field.table.table limit filters = .ok q →
      ∃ catalog schema table, SelectsFrom q catalog schema table limit filters ∧
        CatalogAdmitted settings field.table.catalog catalog ∧
        SchemaAdmitted settings field.table.schema schema

theorem lists_enforced (w : Walker σ) (settings : Settings) (s : Session σ) :
    ∃ trail, Enforced w settings s trail := by
  obtain ⟨trail, hway, hopened, hroots⟩ := leaves_assemble settings σ w s
  refine ⟨trail, hway, ?_, ?_⟩
  · obtain ⟨asked, hasked, hsteps⟩ := hway.finds.requests
    refine ⟨asked, hasked, ?_⟩
    intro request hrequest
    obtain ⟨step, hstep, rfl⟩ := hsteps request hrequest
    exact granted_request (hopened step hstep)
  · intro schema hschema field hfield limit filters q hq
    have htables := (hroots schema hschema field hfield).tables_of_columns
    obtain ⟨-, hcatalog⟩ := htables.schemas_of_tables.catalog_admitted
    obtain ⟨-, hadmitted⟩ := htables.schema_admitted
    exact ⟨_, _, _, selectsFrom_of_translate hq, hcatalog, hadmitted⟩

example : (assemble ⟨Fixture.source, ⟨false, true⟩⟩
    { Settings.standard with excludeCatalogs := ["A"] }
    (Session.start ⟨[("_U0041_", [("s", [])]), ("b", [])], [], []⟩ Cache.Store.empty)).2.requests =
      [.catalogs, .schemas "b"] := by
  decide +kernel

end CatalogGraph.Schema
