import CatalogGraph.Proofs.Translation

/-!
# Which filter is blamed

Filters are looked at in two rounds: every filter is made a predicate before the first predicate is
made a condition. So the fault of a list is not always that of the first filter which fails alone: a
filter that is well put, but cannot be asked of the engine, is passed over where a later one is not
well put. `first_blamed` says when the first filter that fails alone decides, and which one decides
otherwise.
-/

namespace CatalogGraph.Query

variable {catalog schema table : String} {limit : Int} {f g : Filter} {p : Predicate} {e e' : Fault}

/-! ## Well-put filters -/

/-- The filter gives one value and names an operator, be it one that cannot be asked for. -/
def Filter.WellPut (f : Filter) : Prop :=
  f.valueCount = 1 ∧ ∃ op : Operator, f.operatorName = op.name

theorem wellPut_iff (f : Filter) : f.WellPut ↔ ∃ p, Predicate.of f = .ok p := by
  simp only [of_eq_ok_iff]
  constructor
  · rintro ⟨hcount, op, hop⟩
    obtain ⟨v, hv⟩ := List.length_eq_one_iff.1 ((Filter.length_given f).trans hcount)
    exact ⟨⟨f.field, op, v⟩, rfl, hv, hop⟩
  · rintro ⟨p, -, hv, hop⟩
    refine ⟨?_, p.operator, hop⟩
    rw [← Filter.length_given, hv]
    rfl

theorem exists_fault_iff (f : Filter) : (∃ e, Predicate.of f = .error e) ↔ ¬ f.WellPut := by
  rw [wellPut_iff]
  cases Predicate.of f <;> simp

theorem wellPut_of_translatable (h : f.Translatable) : f.WellPut :=
  ⟨h.1, exists_name_of_mem h.2.2⟩

/-! ## The faults of the two rounds -/

theorem fault_of_of (h : Predicate.of f = .error e) :
    e = .filter f.field .noValue ∨ (∃ n, e = .filter f.field (.manyValues n)) ∨
      e = .operator f.operator ∧ Operator.parse? f.operator = none := by
  unfold Predicate.of at h
  split at h
  · rename_i hvalue
    obtain rfl := Except.error.inj h
    unfold Filter.value at hvalue
    split at hvalue
    · cases hvalue
    · exact .inl (Except.error.inj hvalue).symm
    · exact .inr (.inl ⟨_, (Except.error.inj hvalue).symm⟩)
  · split at h
    · rename_i hparse
      exact .inr (.inr ⟨(Except.error.inj h).symm, hparse⟩)
    · cases h

theorem fault_of_condition (h : p.condition = .error e) :
    e = .operator p.operator.name ∨ e = .filter p.field (.listGiven p.operator) := by
  unfold Predicate.condition at h
  split at h
  · exact .inl (Except.error.inj h).symm
  · split at h
    · exact .inr (Except.error.inj h).symm
    · cases h

theorem parse?_name (op : Operator) : Operator.parse? op.name = some op := by
  rw [parse?_eq_some_iff]
  cases op <;> decide

/-- No fault can come of both rounds. -/
theorem fault_ne (hf : Predicate.of f = .error e) (hp : p.condition = .error e') : e ≠ e' := by
  rintro rfl
  rcases fault_of_of hf with rfl | ⟨n, rfl⟩ | ⟨rfl, hparse⟩ <;>
    rcases fault_of_condition hp with hname | hlist
  · cases hname
  · cases (Fault.filter.inj hlist).2
  · cases hname
  · cases (Fault.filter.inj hlist).2
  · -- The name of an operator would have been found.
    rw [Fault.operator.inj hname, parse?_name] at hparse
    cases hparse
  · cases hlist

/-! ## Lists of filters -/

theorem translate_of_fault (hlimit : 0 ≤ limit) {filters : List Filter}
    (h : filters.mapM Predicate.of = .error e) :
    translate catalog schema table limit filters = .error e := by
  unfold translate
  rw [if_neg (Int.not_lt.2 hlimit), h]
  rfl

theorem translate_of_condition (hlimit : 0 ≤ limit) {filters : List Filter}
    {predicates : List Predicate} (h : filters.mapM Predicate.of = .ok predicates)
    (hcondition : predicates.mapM Predicate.condition = .error e) :
    translate catalog schema table limit filters = .error e := by
  unfold translate
  rw [if_neg (Int.not_lt.2 hlimit), h]
  change (predicates.mapM Predicate.condition >>= _) = _
  rw [hcondition]
  rfl

/-- A filter that is not well put is blamed where all filters before it are well put. -/
theorem translate_of_not_wellPut (hlimit : 0 ≤ limit) (before : List Filter)
    (hbefore : ∀ g ∈ before, g.WellPut) (hf : Predicate.of f = .error e) (after : List Filter) :
    translate catalog schema table limit (before ++ f :: after) = .error e :=
  translate_of_fault hlimit (mapM_append_cons_of_error
    (fun g hg => (wellPut_iff g).1 (hbefore g hg)) hf after)

/-- A well-put filter is blamed where the filters before it can be translated and those after it are
well put. -/
theorem translate_of_wellPut (hlimit : 0 ≤ limit) (before : List Filter)
    (hbefore : ∀ g ∈ before, g.Translatable) (hf : Predicate.of f = .ok p)
    (hp : p.condition = .error e) {after : List Filter} (hafter : ∀ g ∈ after, g.WellPut) :
    translate catalog schema table limit (before ++ f :: after) = .error e := by
  obtain ⟨conditions, hconditions⟩ := (exists_conditions_iff_translatable before).2 hbefore
  obtain ⟨front, hfront, hfrontConditions⟩ :=
    (exists_conditions_iff before conditions).2 hconditions
  obtain ⟨rest, hrest⟩ := exists_mapM_eq_ok fun g hg => (wellPut_iff g).1 (hafter g hg)
  have hpredicates : (before ++ f :: after).mapM Predicate.of = .ok (front ++ p :: rest) := by
    rw [List.mapM_append, hfront, List.mapM_cons, hf, hrest]
    rfl
  have hcondition : (front ++ p :: rest).mapM Predicate.condition = .error e := by
    rw [List.mapM_append, hfrontConditions, List.mapM_cons, hp]
    rfl
  exact translate_of_condition hlimit hpredicates hcondition

theorem translate_singleton_iff (hlimit : 0 ≤ limit) (f : Filter) :
    (∃ q, translate catalog schema table limit [f] = .ok q) ↔ f.Translatable := by
  simp only [translate_eq_ok_iff]
  rw [← List.forall_mem_singleton (p := Filter.Translatable), ← exists_conditions_iff_translatable]
  constructor
  · rintro ⟨_, _, conditions, hconditions, -⟩
    exact ⟨conditions, hconditions⟩
  · rintro ⟨conditions, hconditions⟩
    exact ⟨_, hlimit, conditions, hconditions, rfl⟩

/-- Where a list cannot be translated, one of its filters is the first that fails alone. -/
theorem exists_first_failing (hlimit : 0 ≤ limit) {filters : List Filter}
    (h : translate catalog schema table limit filters = .error e) :
    ∃ before f after, filters = before ++ f :: after ∧ (∀ g ∈ before, g.Translatable) ∧
      ¬ f.Translatable := by
  cases hfirst : filters.find? fun f => !decide f.Translatable with
  | none =>
    have hall : ∀ f ∈ filters, f.Translatable := by simpa using hfirst
    obtain ⟨conditions, hconditions⟩ := (exists_conditions_iff_translatable filters).2 hall
    have hok := (translate_eq_ok_iff catalog schema table limit filters _).2
      ⟨hlimit, conditions, hconditions, rfl⟩
    rw [h] at hok
    cases hok
  | some f =>
    obtain ⟨hf, before, after, rfl, hbefore⟩ := List.find?_eq_some_iff_append.1 hfirst
    exact ⟨before, f, after, rfl, by simpa using hbefore, by simpa using hf⟩

theorem exists_condition_fault (hput : f.WellPut) (h : ¬ f.Translatable) :
    ∃ p e, Predicate.of f = .ok p ∧ p.condition = .error e := by
  obtain ⟨p, hp⟩ := (wellPut_iff f).1 hput
  cases hcondition : p.condition with
  | error e => exact ⟨p, e, hp, hcondition⟩
  | ok condition =>
    obtain ⟨q, comparison, hasks, -⟩ := (exists_condition_iff f condition).1 ⟨p, hp, hcondition⟩
    exact absurd ((translatable_iff f).2 ⟨q, hasks⟩) h

/-- In a list, the first filter that is not well put is blamed, if there is one after those that
can be translated. -/
theorem translate_of_later (hlimit : 0 ≤ limit) {before between : List Filter}
    (hbefore : ∀ g ∈ before, g.Translatable) (hput : f.WellPut)
    (hbetween : ∀ k ∈ between, k.WellPut) (hg : Predicate.of g = .error e) (rest : List Filter) :
    translate catalog schema table limit (before ++ f :: (between ++ g :: rest)) = .error e := by
  have hfront : ∀ k ∈ before ++ f :: between, k.WellPut := by
    intro k hk
    rcases List.mem_append.1 hk with hk | hk
    · exact wellPut_of_translatable (hbefore k hk)
    · rcases List.mem_cons.1 hk with rfl | hk
      · exact hput
      · exact hbetween k hk
  have hlist : translate catalog schema table limit ((before ++ f :: between) ++ g :: rest) =
      .error e :=
    translate_of_not_wellPut hlimit _ hfront hg rest
  rwa [List.append_assoc, List.cons_append] at hlist

theorem translate_singleton_of_fault (hlimit : 0 ≤ limit) (hf : Predicate.of f = .error e) :
    translate catalog schema table limit [f] = .error e :=
  translate_of_not_wellPut hlimit [] (by simp) hf []

theorem exists_first_not_wellPut {filters : List Filter} (h : ¬ ∀ g ∈ filters, g.WellPut) :
    ∃ between g rest, filters = between ++ g :: rest ∧ (∀ k ∈ between, k.WellPut) ∧
      ∃ e, Predicate.of g = .error e := by
  classical
  cases hfirst : filters.find? fun g => !decide g.WellPut with
  | none => exact absurd (by simpa using hfirst) h
  | some g =>
    obtain ⟨hg, between, rest, rfl, hbetween⟩ := List.find?_eq_some_iff_append.1 hfirst
    have hput : ¬ g.WellPut := by simpa using hg
    exact ⟨between, g, rest, rfl, by simpa using hbetween, (exists_fault_iff g).2 hput⟩

/-- A list that cannot be translated has a first filter that fails alone. Its fault is that of the
list exactly where the filter is not well put, or all filters after it are; otherwise the first of
them that is not well put is blamed. -/
theorem first_blamed (hlimit : 0 ≤ limit) {filters : List Filter}
    (h : translate catalog schema table limit filters = .error e) :
    ∃ before f after own, filters = before ++ f :: after ∧
      (∀ g ∈ before, ∃ q, translate catalog schema table limit [g] = .ok q) ∧
      translate catalog schema table limit [f] = .error own ∧
      (e = own ↔ (f.WellPut → ∀ g ∈ after, g.WellPut)) ∧
      ∀ between g rest, after = between ++ g :: rest → f.WellPut →
        (∀ k ∈ between, k.WellPut) → ¬ g.WellPut →
          translate catalog schema table limit [g] = .error e := by
  obtain ⟨before, f, after, rfl, hbefore, hf⟩ := exists_first_failing hlimit h
  have hfront : ∀ g ∈ before, ∃ q, translate catalog schema table limit [g] = .ok q :=
    fun g hg => (translate_singleton_iff hlimit g).2 (hbefore g hg)
  by_cases hput : f.WellPut
  · obtain ⟨p, own, hp, hown⟩ := exists_condition_fault hput hf
    have halone : translate catalog schema table limit [f] = .error own :=
      translate_of_wellPut hlimit [] (by simp) hp hown (by simp)
    refine ⟨before, f, after, own, rfl, hfront, halone, ⟨?_, ?_⟩, ?_⟩
    · intro heq _
      by_contra hnot
      obtain ⟨between, g, rest, rfl, hbetween, later, hlater⟩ := exists_first_not_wellPut hnot
      rw [translate_of_later hlimit hbefore hput hbetween hlater rest] at h
      exact fault_ne hlater hown ((Except.error.inj h).trans heq)
    · intro hafter
      rw [translate_of_wellPut hlimit before hbefore hp hown (hafter hput)] at h
      exact (Except.error.inj h).symm
    · rintro between g rest rfl - hbetween hg
      obtain ⟨later, hlater⟩ := (exists_fault_iff g).2 hg
      rw [translate_of_later hlimit hbefore hput hbetween hlater rest] at h
      rw [translate_singleton_of_fault hlimit hlater, h]
  · obtain ⟨own, hown⟩ := (exists_fault_iff f).2 hput
    have hlist : translate catalog schema table limit (before ++ f :: after) = .error own :=
      translate_of_not_wellPut hlimit before (fun g hg => wellPut_of_translatable (hbefore g hg))
        hown after
    rw [hlist] at h
    refine ⟨before, f, after, own, rfl, hfront, translate_singleton_of_fault hlimit hown, ?_, ?_⟩
    · exact ⟨fun _ hput' => absurd hput' hput, fun _ => (Except.error.inj h).symm⟩
    · intro _ _ _ _ hput'
      exact absurd hput' hput

/-- A list of values under an operator that takes one, before an operator that cannot be asked for.
-/
theorem first_blamed_list :
    let filters := [Filter.giving "a" "eq" (.int 1), Filter.giving "b" "eq" (.list ["x"]),
      Filter.giving "c" "neq" (.int 2)]
    (0 : Int) ≤ 5 ∧
      translate "hive" "s" "t" 5 filters = .error (.filter "b" (.listGiven .eq)) ∧
      ∃ before f after own, filters = before ++ f :: after ∧
        (∀ g ∈ before, ∃ q, translate "hive" "s" "t" 5 [g] = .ok q) ∧
        translate "hive" "s" "t" 5 [f] = .error own ∧
        (Fault.filter "b" (.listGiven .eq) = own ↔ (f.WellPut → ∀ g ∈ after, g.WellPut)) := by
  intro filters
  have hfails : translate "hive" "s" "t" 5 filters = .error (.filter "b" (.listGiven .eq)) := by
    decide +kernel
  obtain ⟨before, f, after, own, hfilters, hbefore, hown, hiff, -⟩ :=
    first_blamed (by decide) hfails
  exact ⟨by decide, hfails, before, f, after, own, hfilters, hbefore, hown, hiff⟩

/-- An operator that cannot be asked for is passed over for a filter without a value. -/
theorem later_filter_blamed :
    let asked := Filter.giving "a" "neq" (.int 1)
    let empty : Filter := ⟨"b", "eq", none, none, none, none, none, none⟩
    translate "c" "s" "t" 1 [asked] = .error (.operator "neq") ∧
      translate "c" "s" "t" 1 [asked, empty] = .error (.filter "b" .noValue) := by
  decide +kernel

end CatalogGraph.Query
