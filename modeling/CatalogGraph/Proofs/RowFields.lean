import CatalogGraph.Discovery.Fixture
import CatalogGraph.Proofs.Lookups
import CatalogGraph.Proofs.NameCodec
import CatalogGraph.Proofs.TableTypes
import CatalogGraph.Query.Service

/-!
# Fields and values

The object type of a table has one field for each spelling of its column names, and a row of a
result has one value for each spelling. Where two columns have one spelling, the field is made of
the first of them, and the value is that of the one with the greater name. So the field and the
value belong to one column exactly when no column with a greater name shares its spelling.
-/

namespace CatalogGraph.Query

open Discovery Schema

variable {σ τ : Type} {ds : List ColumnDescription} {d last : ColumnDescription} {row : Row}
  {field : FieldDef} {spelling : String}

/-! ## Columns of a spelling -/

/-- The field is made of the column, the first one whose name has the spelling of the field. -/
structure Depicts (ds : List ColumnDescription) (field : FieldDef) (d : ColumnDescription) :
    Prop where
  first : ds.find? (fun c => Name.sanitize c.name = field.name) = some d
  type : field.type = NativeType.output d.nativeType
  description : field.description = some ("Native type: " ++ d.nativeType)

/-- The column has the greatest name of a spelling. -/
structure Greatest (ds : List ColumnDescription) (spelling : String) (d : ColumnDescription) :
    Prop where
  mem : d ∈ ds
  name : Name.sanitize d.name = spelling
  greatest : ∀ other ∈ ds, Name.sanitize other.name = spelling → ¬ d.name < other.name

theorem Depicts.mem (h : Depicts ds field d) : d ∈ ds := List.mem_of_find?_eq_some h.first

theorem Depicts.name (h : Depicts ds field d) : Name.sanitize d.name = field.name := by
  simpa using List.find?_some h.first

/-- Two different names of one spelling are a name outside the grammar and its rewritten form. -/
theorem sanitize_eq_iff {a b : String} (h : a ≠ b) :
    Name.sanitize a = Name.sanitize b ↔ a = Name.sanitize b ∨ b = Name.sanitize a := by
  constructor
  · intro hsame
    by_cases ha : Name.isValid a = true
    · exact .inl (Name.eq_sanitize_of_sanitize_eq h hsame ha).2
    · by_cases hb : Name.isValid b = true
      · exact .inr (Name.eq_sanitize_of_sanitize_eq h.symm hsame.symm hb).2
      · have hrestored := congrArg Name.restore hsame
        rw [Name.restore_sanitize ha, Name.restore_sanitize hb] at hrestored
        exact absurd hrestored h
  · rintro (rfl | rfl)
    · rw [Name.sanitize_sanitize]
    · rw [Name.sanitize_sanitize]

theorem exists_last {names : List String} (h : names ≠ []) :
    ∃ last ∈ names, ∀ other ∈ names, ¬ last < other := by
  have hsorted := pairwise_sortNames names
  have hne : sortNames names ≠ [] := by
    obtain ⟨name, hname⟩ := List.exists_mem_of_ne_nil names h
    exact List.ne_nil_of_mem (mem_sortNames.2 hname)
  obtain ⟨front, last, heq⟩ : ∃ front last, sortNames names = front ++ [last] :=
    ⟨_, _, (List.dropLast_concat_getLast hne).symm⟩
  rw [heq, List.pairwise_append] at hsorted
  have hmem {name : String} : name ∈ names ↔ name ∈ front ∨ name = last := by
    rw [← mem_sortNames, heq, List.mem_append, List.mem_singleton]
  refine ⟨last, hmem.2 (.inr rfl), ?_⟩
  intro other hother hlt
  rcases hmem.1 hother with hfront | rfl
  · have hbefore := hsorted.2.2 other hfront last (by simp)
    exact String.lt_irrefl _ (String.lt_trans hlt hbefore)
  · exact String.lt_irrefl _ hlt

theorem exists_greatest (hd : d ∈ ds) (hname : Name.sanitize d.name = spelling) :
    ∃ last, Greatest ds spelling last := by
  have hmem : d ∈ ds.filter fun c => Name.sanitize c.name = spelling := by simp [hd, hname]
  have hne := List.ne_nil_of_mem (List.mem_map_of_mem (f := ColumnDescription.name) hmem)
  obtain ⟨name, hlisted, hgreatest⟩ := exists_last hne
  obtain ⟨last, hlast, rfl⟩ := List.mem_map.1 hlisted
  obtain ⟨hlast, hspelling⟩ := List.mem_filter.1 hlast
  refine ⟨last, hlast, by simpa using hspelling, ?_⟩
  intro other hother hsame
  exact hgreatest _ (List.mem_map_of_mem (by simp [hother, hsame]))

/-! ## Renamed rows -/

/-- The row has a value for each of the columns, and no others. -/
structure KeyedBy (row : Row) (ds : List ColumnDescription) : Prop where
  ascending : Dictionary.Ascending row
  keys : ∀ name, name ∈ Dictionary.keys row ↔ ∃ d ∈ ds, d.name = name

theorem find?_renameRow (row : Row) (name : String) :
    Dictionary.find? (renameRow row) name =
      (row.filter fun entry => Name.sanitize entry.1 = name).getLast?.map Prod.snd := by
  unfold renameRow
  rw [Dictionary.find?_ofList, List.filter_map, List.getLast?_map, Option.map_map]
  rfl

/-- Of the values that come under one spelling, that of the greatest name is kept. -/
theorem find?_renameRow_of_greatest (hrow : KeyedBy row ds) (h : Greatest ds spelling last) :
    Dictionary.find? (renameRow row) spelling = Dictionary.find? row last.name := by
  obtain ⟨value, hvalue⟩ := Dictionary.mem_keys_iff.1 ((hrow.keys _).2 ⟨last, h.mem, rfl⟩)
  have hsorted := Dictionary.ascending_filter
    (fun entry => decide (Name.sanitize entry.1 = spelling)) hrow.ascending
  rw [Dictionary.Ascending, Dictionary.keys, List.pairwise_map] at hsorted
  have hmem : (last.name, value) ∈ row.filter fun entry => Name.sanitize entry.1 = spelling :=
    List.mem_filter.2 ⟨Dictionary.mem_of_find? hvalue, by simpa using h.name⟩
  rw [find?_renameRow, hvalue, Sorted.getLast?_of_pairwise hsorted hmem]
  · rfl
  · intro entry hentry
    obtain ⟨hlisted, hspelling⟩ := List.mem_filter.1 hentry
    obtain ⟨other, hother, hname⟩ := (hrow.keys _).1 (List.mem_map_of_mem hlisted)
    rw [← hname]
    exact h.greatest other hother (hname ▸ of_decide_eq_true hspelling)

/-- The row in which the value of each column is its name. -/
def ownNames (ds : List ColumnDescription) : Row :=
  (sortNames (ds.map ColumnDescription.name)).map fun name => (name, .string name)

theorem keys_ownNames (ds : List ColumnDescription) :
    Dictionary.keys (ownNames ds) = sortNames (ds.map ColumnDescription.name) := by
  simp [ownNames, Dictionary.keys, Function.comp_def]

theorem keyedBy_ownNames (ds : List ColumnDescription) : KeyedBy (ownNames ds) ds := by
  refine ⟨?_, ?_⟩
  · rw [Dictionary.Ascending, keys_ownNames]
    exact pairwise_sortNames _
  · intro name
    rw [keys_ownNames, mem_sortNames, List.mem_map]

theorem find?_ownNames (hd : d ∈ ds) :
    Dictionary.find? (ownNames ds) d.name = some (.string d.name) := by
  refine Dictionary.find?_of_mem (keyedBy_ownNames ds).ascending (List.mem_map.2 ⟨d.name, ?_, rfl⟩)
  exact mem_sortNames.2 (List.mem_map_of_mem hd)

/-- All rows have the value of a column under its spelling exactly if it has the greatest name. -/
theorem greatest_iff (hd : d ∈ ds) (hname : Name.sanitize d.name = spelling) :
    (∀ row, KeyedBy row ds →
      Dictionary.find? (renameRow row) spelling = Dictionary.find? row d.name) ↔
        Greatest ds spelling d := by
  constructor
  · intro hvalues
    obtain ⟨last, hlast⟩ := exists_greatest hd hname
    have hown := hvalues _ (keyedBy_ownNames ds)
    rw [find?_renameRow_of_greatest (keyedBy_ownNames ds) hlast, find?_ownNames hlast.mem,
      find?_ownNames hd] at hown
    have hsame : last.name = d.name := Json.string.inj (Option.some.inj hown)
    exact ⟨hd, hname, hsame ▸ hlast.greatest⟩
  · exact fun hgreatest row hrow => find?_renameRow_of_greatest hrow hgreatest

/-! ## Rows of a query -/

/-- What the source answers to a request, where a query can be made of it. -/
def Service.answer (service : Service τ) (request : TableRequest) (s : Session τ) :
    Except Failure (List Row) :=
  match service.prepare request with
  | .error e => .error (.fault e)
  | .ok bound => (service.source.rows bound s.source).1.mapError .source

theorem query_eq (service : Service τ) (request : TableRequest) (s : Session τ) :
    (service.query request s).1 =
      (service.answer request s).map fun rows => rows.map renameRow := by
  unfold Service.query Service.answer
  cases service.prepare request with
  | error e => rfl
  | ok bound =>
    have hasked : (service.source.askRows bound (tell (executing bound) s).2).1 =
        (service.source.rows bound s.source).1 := rfl
    dsimp only
    rw [bind_run, bind_run, hasked]
    cases (service.source.rows bound s.source).1 with
    | error e => rfl
    | ok rows => rfl

/-! ## Fields and values -/

/-- A field is made of the first column of its spelling. -/
theorem depicts_of_mem_fields {w : Walker σ} {settings : Settings} {t : TableRef}
    {type : ObjectType} (hreplace : w.options.replaceInvalid = true)
    (h : tableType? settings t (w.columnsOf t.catalog t.schema t.table ds) = some type)
    (hfield : field ∈ type.fields) : ∃ d, Depicts ds field d := by
  obtain ⟨-, c, hfirst, hmade⟩ := (mem_fields_iff h).1 hfield
  have hspell : ∀ name, w.spell name = Name.sanitize name := by
    intro name
    rw [Walker.spell, if_pos hreplace]
  unfold Walker.columnsOf at hfirst
  simp only [List.find?_map, Option.map_eq_some_iff, Function.comp_def, hspell] at hfirst
  obtain ⟨d, hfound, rfl⟩ := hfirst
  exact ⟨d, hfound, hmade ▸ rfl, hmade ▸ rfl⟩

/-- A column with a greater name shares the spelling: one of the names is the rewritten form of the
other. -/
def Overtaken (ds : List ColumnDescription) (d : ColumnDescription) : Prop :=
  ∃ other ∈ ds, d.name < other.name ∧
    (other.name = Name.sanitize d.name ∨ d.name = Name.sanitize other.name)

theorem greatest_iff_not_overtaken (hd : d ∈ ds) (hname : Name.sanitize d.name = spelling) :
    Greatest ds spelling d ↔ ¬ Overtaken ds d := by
  have hshares {other : ColumnDescription} (hlt : d.name < other.name) :
      Name.sanitize other.name = spelling ↔
        other.name = Name.sanitize d.name ∨ d.name = Name.sanitize other.name := by
    rw [← hname, sanitize_eq_iff (String.ne_of_lt hlt).symm]
  constructor
  · rintro ⟨-, -, hgreatest⟩ ⟨other, hother, hlt, hnames⟩
    exact hgreatest other hother ((hshares hlt).2 hnames) hlt
  · intro hnone
    refine ⟨hd, hname, ?_⟩
    intro other hother hspelling hlt
    exact hnone ⟨other, hother, hlt, (hshares hlt).1 hspelling⟩

/-- A query answers with the rows of the source, renamed. A field of the type of the table is made
of the first column of its spelling, and has the value of the column with the greatest name of this
spelling. So its value is that of its own column in all rows exactly if this column is not
overtaken. -/
theorem values_of_fields (w : Walker σ) (u : Session σ) (settings : Settings) (t : TableRef)
    (ds : List ColumnDescription) (type : ObjectType) (service : Service τ)
    (request : TableRequest) (s : Session τ) (hreplace : w.options.replaceInvalid = true)
    (hlisted : (w.columns t.catalog t.schema t.table u).1 =
      w.columnsOf t.catalog t.schema t.table ds)
    (htype : tableType? settings t (w.columns t.catalog t.schema t.table u).1 = some type) :
    (service.query request s).1 =
      (service.answer request s).map (fun rows => rows.map renameRow) ∧
    ∀ field ∈ type.fields, ∃ d, Depicts ds field d ∧
      (∃ last, Greatest ds field.name last ∧ ∀ row, KeyedBy row ds →
        Dictionary.find? (renameRow row) field.name = Dictionary.find? row last.name) ∧
      ((∀ row, KeyedBy row ds →
        Dictionary.find? (renameRow row) field.name = Dictionary.find? row d.name) ↔
          ¬ Overtaken ds d) := by
  refine ⟨query_eq service request s, ?_⟩
  intro field hfield
  rw [hlisted] at htype
  obtain ⟨d, hd⟩ := depicts_of_mem_fields hreplace htype hfield
  obtain ⟨last, hlast⟩ := exists_greatest hd.mem hd.name
  refine ⟨d, hd, ⟨last, hlast, fun row hrow => find?_renameRow_of_greatest hrow hlast⟩, ?_⟩
  rw [greatest_iff hd.mem hd.name, greatest_iff_not_overtaken hd.mem hd.name]

/-- The first of two columns of one spelling has the greater name, so it is shown and its value is
kept. -/
theorem values_of_fields_greatest :
    let ds : List ColumnDescription := [⟨"_U002D_", "varchar"⟩, ⟨"-", "integer"⟩]
    let f : Fixture := ⟨[("c", [("s", [("t", ds)])])], [], []⟩
    let settings : Settings := ⟨none, [], none, [], true, true⟩
    let w : Walker Fixture := ⟨Fixture.source, ⟨true, true⟩⟩
    let field : FieldDef := ⟨"_U002D_", .scalar .string, some "Native type: varchar"⟩
    (w.columns "c" "s" "t" (.start f .empty)).1 = w.columnsOf "c" "s" "t" ds ∧
      tableType? settings ⟨"c", "s", "t"⟩ (w.columns "c" "s" "t" (.start f .empty)).1 =
        some ⟨"c_s_t", [field]⟩ ∧
      ∀ row, KeyedBy row ds →
        Dictionary.find? (renameRow row) "_U002D_" = Dictionary.find? row "_U002D_" := by
  intro ds f settings w field
  have hlisted : (w.columns "c" "s" "t" (.start f .empty)).1 = w.columnsOf "c" "s" "t" ds := by
    decide +kernel
  have htype : tableType? settings ⟨"c", "s", "t"⟩ (w.columns "c" "s" "t" (.start f .empty)).1 =
      some ⟨"c_s_t", [field]⟩ := by decide +kernel
  refine ⟨hlisted, htype, ?_⟩
  obtain ⟨-, hfields⟩ := values_of_fields w (.start f .empty) settings ⟨"c", "s", "t"⟩ ds _
    ⟨Fixture.source, standardLimit⟩ ⟨"c", "s", "t", none, []⟩ (.start f .empty) rfl hlisted htype
  obtain ⟨d, hd, -, hvalues⟩ := hfields field (by simp)
  have hfirst : d = ⟨"_U002D_", "varchar"⟩ := Option.some.inj (hd.first.symm.trans (by decide))
  subst hfirst
  refine hvalues.2 ?_
  rintro ⟨other, hother, hlt, -⟩
  revert other
  decide

/-- The field is made of the column `-`, which comes first, but its value is that of `_U002D_`. -/
theorem value_of_other_column :
    let ds : List ColumnDescription := [⟨"-", "integer"⟩, ⟨"_U002D_", "varchar"⟩]
    let row : Row := [("-", .int 1), ("_U002D_", .string "x")]
    let f : Fixture := ⟨[("c", [("s", [("t", ds)])])], [], [row]⟩
    let settings : Settings := ⟨none, [], none, [], true, true⟩
    let w : Walker Fixture := ⟨Fixture.source, ⟨true, true⟩⟩
    let service : Service Fixture := ⟨Fixture.source, standardLimit⟩
    KeyedBy row ds ∧
      tableType? settings ⟨"c", "s", "t"⟩ (w.columns "c" "s" "t" (.start f .empty)).1 =
        some ⟨"c_s_t", [⟨"_U002D_", .scalar .int, some "Native type: integer"⟩]⟩ ∧
      (service.query ⟨"c", "s", "t", none, []⟩ (.start f .empty)).1 =
        .ok [[("_U002D_", .string "x")]] ∧
      Dictionary.find? row "-" = some (.int 1) := by
  intro ds row f settings w service
  have hascending : ["-", "_U002D_"].Pairwise (· < ·) := by decide
  have hkeys : ∀ name, name ∈ Dictionary.keys row ↔ ∃ d ∈ ds, d.name = name := by
    simp [row, ds, Dictionary.keys, eq_comm]
  exact ⟨⟨hascending, hkeys⟩, by decide +kernel, rfl, rfl⟩

end CatalogGraph.Query
