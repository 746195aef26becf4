import CatalogGraph.Proofs.QueryRuns
import CatalogGraph.Proofs.RowFields
import Mathlib.Data.List.Nodup
import Mathlib.Data.List.Perm.Subperm

/-!
# Rows of a result table

The worker gives the values of a row by position. They are put under the names of the columns, and
then under the rewritten names. Two columns with one rewritten name share a place, so a row keeps
all of its values exactly if no column is named like the rewritten form of another one's name
(`rows_kept`).
-/

namespace CatalogGraph.Query

open Discovery Worker

variable {names : List String} {values : List Json}

/-! ## Names that clash -/

/-- A name of the grammar is the rewritten form of another of the names. -/
def Clash (names : List String) : Prop :=
  ∃ a ∈ names, ∃ b ∈ names, a ≠ b ∧ Name.isValid a = true ∧ a = Name.sanitize b

/-- Different names have different rewritten forms exactly if none of them clash. -/
theorem nodup_sanitize_iff (h : names.Nodup) :
    (names.map Name.sanitize).Nodup ↔ ¬ Clash names := by
  constructor
  · rintro hforms ⟨a, ha, b, hb, hne, hvalid, hform⟩
    apply hne
    apply List.inj_on_of_nodup_map hforms ha hb
    rw [Name.sanitize_of_isValid hvalid, hform]
  · intro hnone
    refine h.map_on ?_
    intro a ha b hb hsame
    by_contra hne
    rcases (Name.sanitize_faithful a b).2.2 hne hsame with ⟨hvalid, -, hform⟩ | ⟨hvalid, -, hform⟩
    · exact hnone ⟨a, ha, b, hb, hne, hvalid, hform⟩
    · exact hnone ⟨b, hb, a, ha, Ne.symm hne, hvalid, hform⟩

/-! ## One row -/

/-- The row holds the values and nothing else, each under the rewritten name of its column. -/
structure Holds (names : List String) (values : List Json) (row : Row) : Prop where
  length : row.length = names.length
  values : ∀ name value, (name, value) ∈ names.zip values →
    Dictionary.find? row (Name.sanitize name) = some value

/-- A row by the names of its columns, with the columns renamed. -/
def renamed (names : List String) (values : List Json) : Row :=
  renameRow (Dictionary.ofList (names.zip values))

theorem map_fst_zip (h : values.length = names.length) :
    (names.zip values).map Prod.fst = names :=
  List.map_fst_zip (Nat.le_of_eq h.symm)

theorem exists_name_of_mem_renamed {key : String}
    (h : key ∈ Dictionary.keys (renamed names values)) :
    ∃ name ∈ names, key = Name.sanitize name := by
  obtain ⟨entry, hentry, rfl⟩ := List.mem_map.1 h
  obtain ⟨⟨name, value⟩, hlisted, rfl⟩ := List.mem_map.1 (Dictionary.mem_of_mem_ofList hentry)
  exact ⟨name, (List.of_mem_zip (Dictionary.mem_of_mem_ofList hlisted)).1, rfl⟩

/-- Where the rewritten names are different, the row has all values under them. -/
theorem holds_renamed (hnames : names.Nodup) (hlength : values.length = names.length)
    (hforms : (names.map Name.sanitize).Nodup) : Holds names values (renamed names values) := by
  have hentries : (Dictionary.ofList (names.zip values)).Perm (names.zip values) :=
    Dictionary.perm_ofList (by rwa [map_fst_zip hlength])
  have hkeys : (((Dictionary.ofList (names.zip values)).map
      fun entry => (Name.sanitize entry.1, entry.2)).map Prod.fst).Perm
        (names.map Name.sanitize) := by
    have hperm := hentries.map fun entry => Name.sanitize entry.1
    have hzip : (names.zip values).map (fun entry => Name.sanitize entry.1) =
        names.map Name.sanitize := by
      conv_rhs => rw [← map_fst_zip hlength, List.map_map]
      rfl
    rw [hzip] at hperm
    rw [List.map_map]
    exact hperm
  have hrow : (renamed names values).Perm ((Dictionary.ofList (names.zip values)).map
      fun entry => (Name.sanitize entry.1, entry.2)) :=
    Dictionary.perm_ofList (hkeys.nodup_iff.2 hforms)
  refine ⟨?_, ?_⟩
  · rw [hrow.length_eq, List.length_map, hentries.length_eq, List.length_zip, hlength, Nat.min_self]
  · intro name value hmem
    apply Dictionary.find?_of_mem (Dictionary.ascending_ofList _)
    exact hrow.mem_iff.2 (List.mem_map.2 ⟨(name, value), hentries.mem_iff.2 hmem, rfl⟩)

/-- A row of as many entries as there are columns has an entry for every rewritten name, and none of
these names comes twice. -/
theorem nodup_of_length (h : (renamed names values).length = names.length) :
    (names.map Name.sanitize).Nodup := by
  have hascending := Dictionary.ascending_ofList
    ((Dictionary.ofList (names.zip values)).map fun entry => (Name.sanitize entry.1, entry.2))
  have hdistinct : (Dictionary.keys (renamed names values)).Nodup :=
    Sorted.nodup_of_pairwise String.lt_irrefl hascending
  have hsubset : Dictionary.keys (renamed names values) ⊆ names.map Name.sanitize := by
    intro key hkey
    obtain ⟨name, hname, rfl⟩ := exists_name_of_mem_renamed hkey
    exact List.mem_map_of_mem hname
  have hlength : (names.map Name.sanitize).length ≤
      (Dictionary.keys (renamed names values)).length := by
    rw [List.length_map, Dictionary.keys, List.length_map, h]
  have hperm := (List.subperm_of_subset hdistinct hsubset).perm_of_length_le hlength
  exact hperm.nodup_iff.1 hdistinct

theorem holds_renamed_iff (hnames : names.Nodup) (hlength : values.length = names.length) :
    Holds names values (renamed names values) ↔ ¬ Clash names := by
  rw [← nodup_sanitize_iff hnames]
  exact ⟨fun h => nodup_of_length h.length, holds_renamed hnames hlength⟩

/-! ## Rows over the worker -/

/-- What a service over the worker makes of a result table. -/
theorem query_of_table {σ : Type} (link : Link σ) (c : Connection) (limit : Int)
    (request : TableRequest) (s : Session σ) {bound : Bound} {t : ResultTable}
    (hprepare : (Service.mk (link.source c) limit).prepare request = .ok bound)
    (hanswer : (Exchange.executeQuery c bound.sql bound.args).read
      (link.send (Link.rowsRequest c bound) s.source).1 = .ok t) :
    ((Service.mk (link.source c) limit).query request s).1 =
      .ok (t.rows.map (renamed (t.columns.map ColumnDescription.name))) := by
  have hrows : ((link.source c).rows bound s.source).1 = .ok t.toRows := by
    rw [← Link.request_executeQuery] at hanswer
    change Except.map ResultTable.toRows (Except.mapError SourceError.worker
      ((Exchange.executeQuery c bound.sql bound.args).read (link.send
        (Exchange.executeQuery c bound.sql bound.args).request s.source).1)) = _
    rw [hanswer]
    rfl
  obtain ⟨events, hquery⟩ := Service.query_of_ok hprepare s
  rw [hquery, hrows, Service.rowsOf, ResultTable.toRows, List.map_map]
  rfl

/-- Where the worker answers with a table of different column names and of rows with a value for
each column, the service gives back one row for each of its rows, in their order. Every key of it is
the rewritten name of a column, and it holds all values of the row exactly if no column is named
like the rewritten form of another one's name. -/
theorem rows_kept {σ : Type} (link : Link σ) (c : Connection) (limit : Int)
    (request : TableRequest) (s : Session σ) {bound : Bound} {t : ResultTable}
    (hprepare : (Service.mk (link.source c) limit).prepare request = .ok bound)
    (hanswer : (Exchange.executeQuery c bound.sql bound.args).read
      (link.send (Link.rowsRequest c bound) s.source).1 = .ok t)
    (hnames : (t.columns.map ColumnDescription.name).Nodup)
    (hwidths : ∀ values ∈ t.rows, values.length = t.columns.length) :
    ∃ rows, ((Service.mk (link.source c) limit).query request s).1 = .ok rows ∧
      List.Forall₂ (fun values row =>
        (∀ key ∈ Dictionary.keys row, ∃ column ∈ t.columns, key = Name.sanitize column.name) ∧
        (Holds (t.columns.map ColumnDescription.name) values row ↔
          ¬ Clash (t.columns.map ColumnDescription.name))) t.rows rows := by
  refine ⟨_, query_of_table link c limit request s hprepare hanswer, ?_⟩
  rw [List.forall₂_map_right_iff, List.forall₂_same]
  intro values hvalues
  refine ⟨?_, holds_renamed_iff hnames (by rw [hwidths values hvalues, List.length_map])⟩
  intro key hkey
  obtain ⟨name, hname, rfl⟩ := exists_name_of_mem_renamed hkey
  obtain ⟨column, hcolumn, rfl⟩ := List.mem_map.1 hname
  exact ⟨column, hcolumn, rfl⟩

/-- Names that are rewritten and a name of the grammar that is no rewritten form of them. -/
theorem rows_kept_hyphen :
    let t : ResultTable :=
      ⟨[⟨"a-b", "bigint"⟩, ⟨"_U002D_", "date"⟩, ⟨"1", "double"⟩],
        [[.int 1, .string "x", .null], [.int 2, .string "y", .bool true]], 2⟩
    let column (c : ColumnDescription) : Json :=
      .object [("name", .string c.name), ("data_type", .string c.nativeType)]
    let answer : Json :=
      .object [("columns", .array (t.columns.map column)), ("rows", .array (t.rows.map .array)),
        ("row_count", .int 2)]
    let link : Link Unit := ⟨fun _ u => (.ok answer, u), fun calls u => (calls.map fun _ =>
      .ok answer, u)⟩
    let c : Connection := ⟨"trino", "http://e:8080"⟩
    let request : TableRequest := ⟨"c", "s", "t", none, []⟩
    let bound : Bound := ⟨"SELECT t1.* FROM \"c\".\"s\".\"t\" t1 LIMIT 1000", []⟩
    (Service.mk (link.source c) standardLimit).prepare request = .ok bound ∧
      (Exchange.executeQuery c bound.sql bound.args).read
        (link.send (Link.rowsRequest c bound) ()).1 = .ok t ∧
      (t.columns.map ColumnDescription.name).Nodup ∧
      (∀ values ∈ t.rows, values.length = t.columns.length) ∧
      ∃ rows, ((Service.mk (link.source c) standardLimit).query request (.start () .empty)).1 =
          .ok rows ∧
        List.Forall₂ (Holds ["a-b", "_U002D_", "1"]) t.rows rows := by
  intro t column answer link c request bound
  have hprepare : (Service.mk (link.source c) standardLimit).prepare request = .ok bound := by
    change translate "c" "s" "t" standardLimit [] = .ok bound
    decide +kernel
  have hanswer : (Exchange.executeQuery c bound.sql bound.args).read
      (link.send (Link.rowsRequest c bound) ()).1 = .ok t := rfl
  have hnames : (t.columns.map ColumnDescription.name).Nodup := by decide
  have hwidths : ∀ values ∈ t.rows, values.length = t.columns.length := by simp [t]
  have hclash : ¬ Clash ["a-b", "_U002D_", "1"] := by
    unfold Clash
    decide +kernel
  obtain ⟨rows, hrows, hkept⟩ :=
    rows_kept link c standardLimit request (.start () .empty) hprepare hanswer hnames hwidths
  exact ⟨hprepare, hanswer, hnames, hwidths, rows, hrows, hkept.imp fun _ _ h => h.2.2 hclash⟩

end CatalogGraph.Query
