import Mathlib.Logic.Relation
import CatalogGraph.Joins.Detection
import CatalogGraph.Proofs.CandidateOrder
import CatalogGraph.Proofs.JoinNames
import CatalogGraph.Proofs.TypeParameters

/-!
# Detected joins

Columns are not compared all with all: they are put into groups by their scope and by the normal
forms of their names, and each pair of a group is looked at once. Nothing is lost by this, since
columns of one scope or of one normal form come into one group, and columns that match have one
normal form. So the detected candidates are exactly those of all pairs.
-/

namespace CatalogGraph.Joins

/-! ## Groups -/

section Groups

variable {κ : Type} [DecidableEq κ] {key : Column → κ}

/-- A key with the columns that have it. -/
def keyed (key : Column → κ) (columns : List Column) (k : κ) : κ × List Column :=
  (k, columns.filter fun c => key c = k)

theorem keyed_fst (columns : List Column) (k : κ) : (keyed key columns k).1 = k := rfl

theorem keyed_append_of_ne {columns : List Column} {c : Column} {k : κ} (h : key c ≠ k) :
    keyed key (columns ++ [c]) k = keyed key columns k := by
  simp [keyed, List.filter_append, h]

theorem keyed_append_self (columns : List Column) (c : Column) :
    keyed key (columns ++ [c]) (key c) = (key c, (keyed key columns (key c)).2 ++ [c]) := by
  simp [keyed, List.filter_append]

theorem addToGroup_cons (k : κ) (c : Column) (entry : κ × List Column)
    (rest : List (κ × List Column)) :
    addToGroup k c (entry :: rest) =
      if entry.1 = k then (entry.1, entry.2 ++ [c]) :: rest else entry :: addToGroup k c rest := rfl

/-- One more column joins the group of its key, which is a new one where the key is new. -/
theorem addToGroup_map {columns : List Column} {c : Column} {keys : List κ} (hnodup : keys.Nodup)
    (hnew : key c ∉ keys → (keyed key columns (key c)).2 = []) :
    addToGroup (key c) c (keys.map (keyed key columns)) =
      (if key c ∈ keys then keys else keys ++ [key c]).map (keyed key (columns ++ [c])) := by
  induction keys with
  | nil => simp [addToGroup, keyed_append_self, hnew]
  | cons k rest ih =>
    obtain ⟨hfresh, hrest⟩ := List.nodup_cons.1 hnodup
    rw [List.map_cons, addToGroup_cons, keyed_fst]
    by_cases hk : k = key c
    · have hothers : rest.map (keyed key columns) = rest.map (keyed key (columns ++ [c])) := by
        refine List.map_congr_left fun l hl => (keyed_append_of_ne ?_).symm
        rintro rfl
        exact hfresh (hk ▸ hl)
      subst hk
      rw [if_pos rfl, if_pos List.mem_cons_self, hothers, List.map_cons, keyed_append_self]
    · have hne : key c ≠ k := Ne.symm hk
      have hold := ih hrest fun h => hnew (by simp [hne, h])
      rw [if_neg hk, hold, ← keyed_append_of_ne hne]
      by_cases hmem : key c ∈ rest
      · simp [hmem]
      · simp [hmem, hne]

theorem exists_keys (key : Column → κ) (before columns : List Column) {keys : List κ}
    (hnodup : keys.Nodup) (hkeys : ∀ k, k ∈ keys ↔ ∃ c ∈ before, key c = k) :
    ∃ all : List κ, (∀ k, k ∈ all ↔ ∃ c ∈ before ++ columns, key c = k) ∧
      columns.foldl (fun groups c => addToGroup (key c) c groups) (keys.map (keyed key before)) =
        all.map (keyed key (before ++ columns)) := by
  induction columns generalizing before keys with
  | nil => exact ⟨keys, by simpa using hkeys, by simp⟩
  | cons c rest ih =>
    have hnew : key c ∉ keys → (keyed key before (key c)).2 = [] := by
      intro hfresh
      refine List.filter_eq_nil_iff.2 fun d hd hkey => ?_
      exact hfresh ((hkeys _).2 ⟨d, hd, by simpa using hkey⟩)
    rw [List.foldl_cons, addToGroup_map hnodup hnew, List.append_cons]
    refine ih (before ++ [c]) ?_ ?_
    · split
      · exact hnodup
      · rename_i hfresh
        rw [List.nodup_append]
        refine ⟨hnodup, by simp, ?_⟩
        rintro a ha b hb rfl
        exact hfresh (List.mem_singleton.1 hb ▸ ha)
    · intro k
      have hmore : (∃ d ∈ before ++ [c], key d = k) ↔ k ∈ keys ∨ k = key c := by
        simp only [List.mem_append, List.mem_singleton, or_and_right, exists_or, hkeys,
          exists_eq_left]
        exact or_congr_right eq_comm
      rw [hmore]
      split
      · rename_i hold
        exact ⟨.inl, fun h => h.elim id fun heq => heq ▸ hold⟩
      · simp

/-- The groups are the columns of one key each. -/
theorem mem_groupBy_iff {columns group : List Column} :
    group ∈ groupBy key columns ↔
      ∃ c ∈ columns, group = columns.filter fun d => key d = key c := by
  obtain ⟨all, hall, heq⟩ := exists_keys key [] columns List.nodup_nil (by simp)
  unfold groupBy
  rw [List.map_nil, List.nil_append] at heq
  rw [heq]
  simp only [List.map_map, List.mem_map, hall, List.nil_append]
  constructor
  · rintro ⟨_, ⟨c, hc, rfl⟩, rfl⟩
    exact ⟨c, hc, rfl⟩
  · rintro ⟨c, hc, rfl⟩
    exact ⟨_, ⟨c, hc, rfl⟩, rfl⟩

/-- Two columns are in one group exactly when they have one key. -/
theorem exists_group_iff {columns : List Column} {a b : Column} :
    (∃ group ∈ groupBy key columns, a ∈ group ∧ b ∈ group) ↔
      a ∈ columns ∧ b ∈ columns ∧ key a = key b := by
  simp only [mem_groupBy_iff]
  constructor
  · rintro ⟨_, ⟨c, -, rfl⟩, ha, hb⟩
    simp only [List.mem_filter, decide_eq_true_eq] at ha hb
    exact ⟨ha.1, hb.1, ha.2.trans hb.2.symm⟩
  · rintro ⟨ha, hb, hkey⟩
    refine ⟨_, ⟨b, hb, rfl⟩, ?_, ?_⟩ <;> simp [ha, hb, hkey]

end Groups

variable {strategy : Strategy} {columns scope group others : List Column} {a b : Column}
  {c : Candidate}

/-! ## Columns that take part -/

/-- The schema is none of those that the engine keeps for itself. The type, in small letters and
without white space around it, is no text and no interval, and without its parameters it is none of
the types that make no keys. -/
structure TakesPart (c : Column) : Prop where
  schema : ∀ internal ∈ ["information_schema", "pg_catalog", "system", "sys"],
    Text.sameIgnoringAsciiCase internal c.schema = false
  varchar : ¬ "varchar".toList <+: (Text.lower (Text.trim c.nativeType)).toList
  interval : ¬ "interval".toList <+: (Text.lower (Text.trim c.nativeType)).toList
  type : ∀ left, CutsTo (Text.lower (Text.trim c.nativeType)).toList left →
    String.ofList (Text.trimChars left) ∉
      ["date", "time", "time with time zone", "timestamp", "timestamp with time zone", "boolean",
        "json", "jsonb", "interval", "blob", "array", "map", "row", "struct", "decimal", "float",
        "real", "varbinary"]

theorem isInternalSchema_eq_false_iff {schema : String} : isInternalSchema schema = false ↔
    ∀ internal ∈ ["information_schema", "pg_catalog", "system", "sys"],
      Text.sameIgnoringAsciiCase internal schema = false := by
  unfold isInternalSchema internalSchemas
  rw [List.any_eq_false]
  simp only [Bool.not_eq_true]

theorem isEligible_iff (c : Column) : isEligible c = true ↔ TakesPart c := by
  unfold isEligible isJoinableType
  rw [Bool.and_eq_true, Bool.not_eq_true', isInternalSchema_eq_false_iff]
  have hcuts := cutsTo_withoutParameters (Text.lower (Text.trim c.nativeType)).toList
  dsimp only
  constructor
  · rintro ⟨hschema, htype⟩
    split at htype
    · cases htype
    · rename_i hprefix
      rw [Bool.or_eq_true, List.isPrefixOf_iff_prefix, List.isPrefixOf_iff_prefix, not_or]
        at hprefix
      refine ⟨hschema, hprefix.1, hprefix.2, fun left hleft => ?_⟩
      rw [hleft.withoutParameters] at htype
      simpa [unjoinableTypes] using htype
  · intro h
    have hprefix : ¬ ("varchar".toList.isPrefixOf (Text.lower (Text.trim c.nativeType)).toList ||
        "interval".toList.isPrefixOf (Text.lower (Text.trim c.nativeType)).toList) = true := by
      rw [Bool.or_eq_true, List.isPrefixOf_iff_prefix, List.isPrefixOf_iff_prefix]
      exact not_or.2 ⟨h.varchar, h.interval⟩
    have htype := h.type _ hcuts
    rw [if_neg hprefix]
    exact ⟨h.schema, by simpa [unjoinableTypes] using htype⟩

/-! ## Pairs that match by name -/

theorem sameTable_eq_false_iff : a.sameTable b = false ↔
    ¬ (a.catalog = b.catalog ∧ a.schema = b.schema ∧ a.table = b.table) := by
  rw [← Bool.not_eq_true, Column.sameTable, Bool.and_eq_true, Bool.and_eq_true, beq_iff_eq,
    beq_iff_eq, beq_iff_eq, and_assoc]

theorem sameTable_self (a : Column) : a.sameTable a = true := by simp [Column.sameTable]

theorem sameTable_comm (a b : Column) : a.sameTable b = b.sameTable a := by
  unfold Column.sameTable
  rw [Bool.eq_iff_iff]
  simp only [Bool.and_eq_true, beq_iff_eq]
  exact and_congr (and_congr eq_comm eq_comm) eq_comm

/-- The left column is not after the right one, and the names match. -/
def SharesName (c : Candidate) : Prop :=
  ¬ c.right.Precedes c.left ∧ joinability c.left.name c.right.name = some c.basis

/-- Two columns of different tables are joined in their order. -/
theorem sharedName_eq_some_iff :
    sharedName a b = some c ↔ c.left.sameTable c.right = false ∧ SharesName c ∧
      (c.left = a ∧ c.right = b ∨ c.left = b ∧ c.right = a) := by
  have hpair : sharedName a b = some c ↔ a.sameTable b = false ∧
      joinability a.name b.name = some c.basis ∧
        (if b.orderKey < a.orderKey then c.left = b ∧ c.right = a
          else c.left = a ∧ c.right = b) := by
    obtain ⟨l, r, basis⟩ := c
    unfold sharedName
    cases a.sameTable b with
    | true => simp
    | false =>
      cases joinability a.name b.name with
      | none => simp
      | some found =>
        simp only [Bool.false_eq_true, if_false, Option.some.injEq, true_and]
        split
        · rw [Candidate.mk.injEq, ← and_assoc, and_comm, @eq_comm _ b, @eq_comm _ a]
        · rw [Candidate.mk.injEq, ← and_assoc, and_comm, @eq_comm _ a, @eq_comm _ b]
  rw [hpair]
  unfold SharesName
  by_cases hlt : b.orderKey < a.orderKey
  · have hafter := Column.orderKey_lt_iff.1 hlt
    rw [if_pos hlt]
    constructor
    · rintro ⟨htable, hname, rfl, rfl⟩
      rw [sameTable_comm, joinability_comm]
      refine ⟨htable, ⟨fun h => ?_, hname⟩, .inr ⟨rfl, rfl⟩⟩
      exact Column.not_precedes_self _ (h.trans hafter)
    · rintro ⟨htable, ⟨hordered, hname⟩, ⟨rfl, rfl⟩ | ⟨rfl, rfl⟩⟩
      · exact absurd hafter hordered
      · rw [sameTable_comm, joinability_comm]
        exact ⟨htable, hname, rfl, rfl⟩
  · have hbefore := mt Column.orderKey_lt_iff.2 hlt
    rw [if_neg hlt]
    constructor
    · rintro ⟨htable, hname, rfl, rfl⟩
      exact ⟨htable, ⟨hbefore, hname⟩, .inl ⟨rfl, rfl⟩⟩
    · rintro ⟨htable, ⟨hordered, hname⟩, ⟨rfl, rfl⟩ | ⟨rfl, rfl⟩⟩
      · exact ⟨htable, hname, rfl, rfl⟩
      · have hne : c.left ≠ c.right := by
          intro heq
          rw [heq, sameTable_self] at htable
          cases htable
        exact ((Column.precedes_total hne).elim hbefore hordered).elim

theorem mem_sharedNames_iff_sublist :
    c ∈ sharedNames group ↔ ∃ a b, [a, b].Sublist group ∧ sharedName a b = some c := by
  induction group with
  | nil => simp [sharedNames]
  | cons head rest ih =>
    unfold sharedNames
    rw [List.mem_append, List.mem_filterMap, ih]
    constructor
    · rintro (⟨b, hb, hc⟩ | ⟨a, b, hsub, hc⟩)
      · exact ⟨head, b, (List.singleton_sublist.2 hb).cons_cons head, hc⟩
      · exact ⟨a, b, hsub.cons head, hc⟩
    · rintro ⟨a, b, hsub, hc⟩
      cases hsub with
      | cons _ hrest => exact .inr ⟨a, b, hrest, hc⟩
      | cons_cons _ hrest => exact .inl ⟨b, List.singleton_sublist.1 hrest, hc⟩

theorem pair_sublist (ha : a ∈ group) (hb : b ∈ group) (hne : a ≠ b) :
    [a, b].Sublist group ∨ [b, a].Sublist group := by
  induction group with
  | nil => cases ha
  | cons head rest ih =>
    rcases List.mem_cons.1 ha with rfl | harest
    · have hbrest : b ∈ rest := (List.mem_cons.1 hb).resolve_left (Ne.symm hne)
      exact .inl ((List.singleton_sublist.2 hbrest).cons_cons a)
    · rcases List.mem_cons.1 hb with rfl | hbrest
      · exact .inr ((List.singleton_sublist.2 harest).cons_cons b)
      · exact (ih harest hbrest).imp (fun h => h.cons head) fun h => h.cons head

/-- Each pair of a group is looked at, in whatever order it is met. -/
theorem mem_sharedNames_iff :
    c ∈ sharedNames group ↔ c.left ∈ group ∧ c.right ∈ group ∧
      c.left.sameTable c.right = false ∧ SharesName c := by
  rw [mem_sharedNames_iff_sublist]
  simp only [sharedName_eq_some_iff]
  constructor
  · rintro ⟨a, b, hsub, htable, hname, ⟨rfl, rfl⟩ | ⟨rfl, rfl⟩⟩
    · exact ⟨hsub.subset (by simp), hsub.subset (by simp), htable, hname⟩
    · exact ⟨hsub.subset (by simp), hsub.subset (by simp), htable, hname⟩
  · rintro ⟨hleft, hright, htable, hname⟩
    have hne : c.left ≠ c.right := by
      intro heq
      rw [heq, sameTable_self] at htable
      cases htable
    rcases pair_sublist hleft hright hne with hsub | hsub
    · exact ⟨_, _, hsub, htable, hname, .inl ⟨rfl, rfl⟩⟩
    · exact ⟨_, _, hsub, htable, hname, .inr ⟨rfl, rfl⟩⟩

/-- Columns that match by name are in one group, so all matching pairs are found within the groups
of one normal form. -/
theorem mem_groups_sharedNames_iff :
    c ∈ (groupBy (fun c => normalizeColumn c.name) scope).flatMap sharedNames ↔
      c ∈ sharedNames scope := by
  simp only [List.mem_flatMap, mem_sharedNames_iff]
  constructor
  · rintro ⟨group, hgroup, hleft, hright, htable, hname⟩
    obtain ⟨hleft, hright, -⟩ := exists_group_iff.1 ⟨group, hgroup, hleft, hright⟩
    exact ⟨hleft, hright, htable, hname⟩
  · rintro ⟨hleft, hright, htable, hname⟩
    have hnormal := normalizeColumn_of_joinability hname.2
    have hgroups : ∃ group ∈ groupBy (fun c => normalizeColumn c.name) scope,
        c.left ∈ group ∧ c.right ∈ group := exists_group_iff.2 ⟨hleft, hright, hnormal⟩
    obtain ⟨group, hgroup, hleft, hright⟩ := hgroups
    exact ⟨group, hgroup, hleft, hright, htable, hname⟩

/-- Two names match exactly when they have one normal form, and for the first reason exactly when
they are equal without regard to ASCII case. The stems before a final `_id` decide nothing. So
matching is an equivalence, and no pair of columns is lost by looking only at those of one normal
form. -/
theorem matching_exact :
    (∀ l r, (joinability l r).isSome = true ↔ normalizeColumn l = normalizeColumn r) ∧
    (∀ l r, joinability l r = some .exactName ↔ Text.sameIgnoringAsciiCase l r = true) ∧
    (∀ l r, joinability l r = some .normalizedName ↔
      normalizeColumn l = normalizeColumn r ∧ Text.sameIgnoringAsciiCase l r = false) ∧
    (∀ l r, joinability l r =
      if Text.sameIgnoringAsciiCase l r then some .exactName
      else if normalizeColumn l = normalizeColumn r then some .normalizedName else none) ∧
    (∀ l r, joinability l r = joinability r l) ∧
    Equivalence (fun l r => (joinability l r).isSome = true) ∧
    ∀ (columns : List Column) (c : Candidate),
      c ∈ (groupBy (fun c => normalizeColumn c.name) columns).flatMap sharedNames ↔
        c ∈ sharedNames columns := by
  have hequivalence : Equivalence fun l r => (joinability l r).isSome = true := by
    simp only [isSome_joinability_iff]
    exact eq_equivalence.comap normalizeColumn
  exact ⟨fun l r => isSome_joinability_iff, fun l r => joinability_eq_exactName_iff,
    fun l r => joinability_eq_normalizedName_iff, joinability_eq_ite, joinability_comm,
    hequivalence, fun columns c => mem_groups_sharedNames_iff⟩

-- The Kelvin sign has the small letter of `K`, but is not an ASCII letter.
example : joinability "\u212a_d" "KD" = some .normalizedName := by decide +kernel

/-! ## Foreign keys -/

/-- The left column is named after the table of the right one, which is an `id`. -/
def Refers (c : Candidate) : Prop :=
  c.basis = .foreignKeySuffix ∧ ∃ stem, idStem? c.left.name = some stem ∧
    Text.sameIgnoringAsciiCase c.right.name "id" = true ∧ tableMatches c.right.table stem = true

theorem mem_foreignKeys_iff :
    c ∈ foreignKeys scope a ↔ c.left = a ∧ c.right ∈ scope ∧
      c.left.sameTable c.right = false ∧ Refers c := by
  unfold foreignKeys Refers
  cases hstem : idStem? a.name with
  | none =>
    simp only [List.not_mem_nil, false_iff]
    rintro ⟨rfl, -, -, -, stem, hsome, -⟩
    rw [hstem] at hsome
    cases hsome
  | some stem =>
    simp only [List.mem_map, List.mem_filter, Bool.and_eq_true, Bool.not_eq_true']
    constructor
    · rintro ⟨target, ⟨hmem, ⟨hid, htable⟩, hmatches⟩, rfl⟩
      exact ⟨rfl, hmem, htable, rfl, stem, hstem, hid, hmatches⟩
    · rintro ⟨rfl, hmem, htable, hbasis, stem', hstem', hid, hmatches⟩
      rw [hstem] at hstem'
      cases hstem'
      exact ⟨c.right, ⟨hmem, ⟨hid, htable⟩, hmatches⟩, by rw [← hbasis]⟩

/-! ## Scopes -/

/-- Two columns are compared with each other. -/
def SameScope (strategy : Strategy) (a b : Column) : Prop :=
  match strategy with
  | .global => True
  | .sameSchema => a.catalog = b.catalog ∧ a.schema = b.schema

theorem exists_scope_iff :
    (∃ scope ∈ scopes strategy columns, a ∈ scope ∧ b ∈ scope) ↔
      a ∈ columns ∧ b ∈ columns ∧ SameScope strategy a b := by
  cases strategy with
  | global => simp [scopes, SameScope]
  | sameSchema =>
    unfold scopes SameScope
    rw [exists_group_iff, Prod.mk.injEq]

/-- Within a scope, columns that match by name are in one group. -/
theorem mem_scopeCandidates_iff :
    c ∈ scopeCandidates scope ↔ c.left ∈ scope ∧ c.right ∈ scope ∧
      c.left.sameTable c.right = false ∧ (Refers c ∨ SharesName c) := by
  unfold scopeCandidates
  rw [List.mem_append, mem_groups_sharedNames_iff, mem_sharedNames_iff]
  simp only [List.mem_flatMap, mem_foreignKeys_iff]
  constructor
  · rintro (⟨a, ha, rfl, hright, htable, hrefers⟩ | ⟨hleft, hright, htable, hname⟩)
    · exact ⟨ha, hright, htable, .inl hrefers⟩
    · exact ⟨hleft, hright, htable, .inr hname⟩
  · rintro ⟨hleft, hright, htable, hrefers | hname⟩
    · exact .inl ⟨c.left, hleft, rfl, hright, htable, hrefers⟩
    · exact .inr ⟨hleft, hright, htable, hname⟩

/-! ## Detection -/

/-- Two of the columns probably join: both take part, they are of different tables of one scope, and
the left one refers to the right one, or they are in order and their names match. -/
structure Joined (strategy : Strategy) (columns : List Column) (c : Candidate) : Prop where
  left_mem : c.left ∈ columns
  right_mem : c.right ∈ columns
  left_part : TakesPart c.left
  right_part : TakesPart c.right
  tables : ¬ (c.left.catalog = c.right.catalog ∧ c.left.schema = c.right.schema ∧
    c.left.table = c.right.table)
  scope : SameScope strategy c.left c.right
  reason : Refers c ∨ SharesName c

theorem mem_detect_iff : c ∈ detect strategy columns ↔ Joined strategy columns c := by
  unfold detect
  simp only [Candidate.mem_sort, List.mem_flatMap, mem_scopeCandidates_iff]
  constructor
  · rintro ⟨scope, hscope, hleft, hright, htable, hreason⟩
    obtain ⟨hleft, hright, hsame⟩ := exists_scope_iff.1 ⟨scope, hscope, hleft, hright⟩
    rw [List.mem_filter, isEligible_iff] at hleft hright
    rw [sameTable_eq_false_iff] at htable
    exact ⟨hleft.1, hright.1, hleft.2, hright.2, htable, hsame, hreason⟩
  · intro h
    obtain ⟨scope, hscope, hleft, hright⟩ := exists_scope_iff.2
      ⟨List.mem_filter.2 ⟨h.left_mem, (isEligible_iff _).2 h.left_part⟩,
        List.mem_filter.2 ⟨h.right_mem, (isEligible_iff _).2 h.right_part⟩, h.scope⟩
    exact ⟨scope, hscope, hleft, hright, sameTable_eq_false_iff.2 h.tables, h.reason⟩

theorem pairwise_detect (strategy : Strategy) (columns : List Column) :
    (detect strategy columns).Pairwise Candidate.Precedes := Candidate.pairwise_sort _

/-- The detected candidates are exactly those of all pairs of columns, ascending. So they depend on
the set of the columns only, and those of one schema are the ones of the catalog whose columns are
of one schema. -/
theorem detect_exact (strategy : Strategy) (columns : List Column) :
    (detect strategy columns).Pairwise Candidate.Precedes ∧
    (∀ c, c ∈ detect strategy columns ↔ Joined strategy columns c) ∧
    (∀ others : List Column, (∀ c, c ∈ others ↔ c ∈ columns) →
      detect strategy others = detect strategy columns) ∧
    detect .sameSchema columns = (detect .global columns).filter fun c =>
      c.left.catalog = c.right.catalog ∧ c.left.schema = c.right.schema := by
  refine ⟨pairwise_detect _ _, fun c => mem_detect_iff, ?_, ?_⟩
  · intro others hothers
    refine Candidate.eq_of_pairwise (pairwise_detect _ _) (pairwise_detect _ _) fun c => ?_
    rw [mem_detect_iff, mem_detect_iff]
    constructor
    · intro h
      exact { h with left_mem := (hothers _).1 h.left_mem, right_mem := (hothers _).1 h.right_mem }
    · intro h
      exact { h with left_mem := (hothers _).2 h.left_mem, right_mem := (hothers _).2 h.right_mem }
  · refine Candidate.eq_of_pairwise (pairwise_detect _ _) ((pairwise_detect _ _).filter _)
      fun c => ?_
    rw [List.mem_filter, mem_detect_iff, mem_detect_iff, decide_eq_true_iff]
    constructor
    · intro h
      exact ⟨{ h with scope := trivial }, h.scope⟩
    · rintro ⟨h, hschema⟩
      exact { h with scope := hschema }

-- Both reasons in one schema: the key of the orders, and the key that two tables have in common.
example :
    (detect .sameSchema [⟨"hive", "sales", "orders", "user_id", "bigint"⟩,
      ⟨"hive", "sales", "users", "id", "bigint"⟩,
      ⟨"hive", "sales", "visits", "UserId", "bigint"⟩]).map (fun c => (c.left.table, c.right.table))
      = [("orders", "users"), ("orders", "visits")] := by
  decide +kernel

end CatalogGraph.Joins
