import CatalogGraph.Proofs.Dictionary
import CatalogGraph.Schema.Assembly

/-!
# Listings and types of tables

Sorted names are the given names, each once. The fields of a table are made of its usable columns;
of several columns of one name the first counts. So a table has a type exactly when it has a usable
column.
-/

namespace CatalogGraph.Schema

open Discovery

/-! ## Sorted names -/

theorem insertName_eq (name : String) (names : List String) :
    insertName name names = Sorted.insert (· < ·) name names := by
  induction names with
  | nil => rfl
  | cons head rest ih => rw [insertName, Sorted.insert, ih]

theorem sortNames_eq (names : List String) :
    sortNames names = names.foldr (Sorted.insert (· < ·)) [] :=
  congrArg (fun f => names.foldr f []) (funext fun name => funext (insertName_eq name))

@[simp]
theorem mem_sortNames {name : String} {names : List String} :
    name ∈ sortNames names ↔ name ∈ names := by
  rw [sortNames_eq, Sorted.mem_foldr_insert]

theorem pairwise_sortNames (names : List String) : (sortNames names).Pairwise (· < ·) := by
  rw [sortNames_eq]
  refine Sorted.pairwise_foldr_insert ?_ ?_ names
  · exact fun _ _ _ => String.lt_trans
  · intro a b hne
    exact Decidable.or_iff_not_imp_left.2 fun hnlt => Dictionary.lt_of_not_lt_of_ne hnlt hne

theorem nodup_sortNames (names : List String) : (sortNames names).Nodup :=
  (pairwise_sortNames names).imp fun hlt => String.ne_of_lt hlt

/-! ## Fields of a table -/

/-- The columns whose names may be used. -/
def usable (settings : Settings) (columns : List Column) : List Column :=
  columns.filter fun c => nameAllowed settings c.name

theorem usable_cons (settings : Settings) (c : Column) (rest : List Column) :
    usable settings (c :: rest) =
      if nameAllowed settings c.name then c :: usable settings rest else usable settings rest :=
  List.filter_cons

theorem usable_ne_nil_iff {settings : Settings} {columns : List Column} :
    usable settings columns ≠ [] ↔ ∃ c ∈ columns, nameAllowed settings c.name = true := by
  simp [usable, List.filter_eq_nil_iff]

/-- The fields without those that have the name of an earlier one. -/
def firstOfName : List FieldDef → List FieldDef
  | [] => []
  | field :: rest => field :: (firstOfName rest).filter fun other => other.name ≠ field.name

/-- The columns so far keep the later ones of their names out. -/
theorem foldl_addColumn (settings : Settings) (columns : List Column)
    (found : List FieldDef × List Event) :
    (columns.foldl (addColumn settings) found).1 =
      found.1 ++ (firstOfName ((usable settings columns).map fieldOf)).filter fun field =>
        field.name ∉ found.1.map FieldDef.name := by
  induction columns generalizing found with
  | nil => simp [firstOfName, usable]
  | cons c rest ih =>
    rw [List.foldl_cons, ih, usable_cons]
    unfold addColumn
    by_cases hallowed : nameAllowed settings c.name = true
    · simp only [hallowed, Bool.not_true, Bool.false_eq_true, if_false, if_true, List.map_cons,
        firstOfName]
      have hfield : (fieldOf c).name = c.name := rfl
      by_cases hold : c.name ∈ found.1.map FieldDef.name
      · -- the field is dropped, and the fields after it are filtered by fewer names
        have hany : (found.1.any fun field => field.name == c.name) = true := by
          obtain ⟨field, hmem, hname⟩ := List.mem_map.1 hold
          exact List.any_eq_true.2 ⟨field, hmem, by simp [hname]⟩
        rw [if_pos hany, List.filter_cons_of_neg (by simpa [hfield] using hold), List.filter_filter]
        congr 1
        refine List.filter_congr ?_
        intro field _
        by_cases hname : field.name = c.name
        · simp [hname, hold]
        · simp [hname, hfield]
      · have hany : ¬ (found.1.any fun field => field.name == c.name) = true := by
          intro h
          obtain ⟨field, hmem, hname⟩ := List.any_eq_true.1 h
          exact hold (List.mem_map.2 ⟨field, hmem, by simpa using hname⟩)
        rw [if_neg hany, List.filter_cons_of_pos (by simpa [hfield] using hold),
          List.filter_filter, List.append_assoc, List.singleton_append]
        congr 2
        refine List.filter_congr ?_
        intro field _
        rw [List.map_append, List.map_singleton, hfield]
        by_cases hname : field.name = c.name
        · simp [hname]
        · simp [hname, -List.mem_map]
    · simp [hallowed]

theorem fieldsOf_eq (settings : Settings) (columns : List Column) :
    (fieldsOf settings columns).1 =
      firstOfName ((usable settings columns).map fieldOf) := by
  unfold fieldsOf
  rw [foldl_addColumn]
  simp

/-- A table has a type exactly when it has a usable column. -/
theorem tableType?_eq_some_iff {settings : Settings} {t : TableRef} {columns : List Column}
    {type : ObjectType} :
    tableType? settings t columns = some type ↔
      usable settings columns ≠ [] ∧
        type = ⟨t.typeName, firstOfName ((usable settings columns).map fieldOf)⟩ := by
  unfold tableType?
  rw [fieldsOf_eq]
  cases usable settings columns with
  | nil => simp [firstOfName]
  | cons c rest =>
    simp only [List.map_cons, firstOfName, Option.some.injEq, ne_eq, reduceCtorEq,
      not_false_eq_true, true_and]
    exact eq_comm

theorem mem_firstOfName_iff {field : FieldDef} {fields : List FieldDef} :
    field ∈ firstOfName fields ↔
      fields.find? (fun other => other.name = field.name) = some field := by
  induction fields with
  | nil => simp [firstOfName]
  | cons head rest ih =>
    unfold firstOfName
    rw [List.mem_cons, List.mem_filter, ih, List.find?_cons]
    by_cases h : head.name = field.name
    · simp [h, eq_comm]
    · have hne : field ≠ head := by
        rintro rfl
        exact h rfl
      simp [h, hne, Ne.symm h]

theorem find?_usable (settings : Settings) (columns : List Column) (name : String) :
    (usable settings columns).find? (fun c => c.name = name) =
      if nameAllowed settings name then columns.find? fun c => c.name = name else none := by
  induction columns with
  | nil => simp [usable]
  | cons c rest ih =>
    rw [usable_cons, List.find?_cons]
    by_cases hname : c.name = name
    · by_cases hallowed : nameAllowed settings name = true
      · simp [hname, hallowed]
      · simp [hname, hallowed, ih]
    · by_cases hallowed : nameAllowed settings c.name = true
      · simp [hname, hallowed, ih]
      · simp [hname, hallowed, ih]

/-- A field is made of the first column of its name, where this name may be used. -/
theorem mem_fields_iff {settings : Settings} {t : TableRef} {columns : List Column}
    {type : ObjectType} (h : tableType? settings t columns = some type) {field : FieldDef} :
    field ∈ type.fields ↔ nameAllowed settings field.name = true ∧
      ∃ c, columns.find? (fun c => c.name = field.name) = some c ∧ fieldOf c = field := by
  obtain ⟨-, rfl⟩ := tableType?_eq_some_iff.1 h
  have hnames : (fun other : FieldDef => decide (other.name = field.name)) ∘ fieldOf =
      fun c => decide (c.name = field.name) := rfl
  rw [mem_firstOfName_iff, List.find?_map, Option.map_eq_some_iff, hnames, find?_usable]
  by_cases hallowed : nameAllowed settings field.name = true
  · simp [hallowed]
  · simp [hallowed]

end CatalogGraph.Schema
