import CatalogGraph.Proofs.Registration
import CatalogGraph.Proofs.TableTypes
import CatalogGraph.Proofs.Views

/-!
# The walk as a list of tables

An assembly asks for every list once. Where the names of a list stay different when they are
rewritten, no list is written down at the place of another one, so the walk registers the tables of
the view in the order of their names, and nothing else.
-/

namespace CatalogGraph.Schema

open Cache Discovery Registry

variable {σ : Type}

/-! ## The tables of a view -/

section Tables

variable (v : View) (settings : Settings)

/-- A table with its object type, if it has a usable column. -/
def typed? (t : TableRef) : Option Entry :=
  (tableType? settings t (v.columns t.catalog t.schema t.table)).map fun type => (t, type)

/-- The tables of a schema that may be used, of the given names. -/
def tablesNamed (catalog schema : String) (names : List String) : List TableRef :=
  (names.filter (nameAllowed settings)).map fun name => ⟨catalog, schema, name⟩

/-- Whether a schema is exposed. -/
def exposesSchema (name : String) : Bool :=
  settings.allowsSchema name && nameAllowed settings name

/-- The tables of the schemas of a catalog that are exposed, of the given names. -/
def tablesBelow (catalog : String) (names : List String) : List TableRef :=
  (names.filter (exposesSchema settings)).flatMap fun name =>
    tablesNamed settings catalog name (sortNames (v.tables catalog name))

/-- Whether a catalog is exposed. -/
def exposesCatalog (name : String) : Bool :=
  settings.allowsCatalog name && nameAllowed settings name

/-- The tables of the catalogs that are exposed, of the given names. -/
def tablesWithin (names : List String) : List TableRef :=
  (names.filter (exposesCatalog settings)).flatMap fun name =>
    tablesBelow v settings name (sortNames (v.schemas name))

/-- All tables with their object types, in the order of the walk. -/
def entries : List Entry :=
  (tablesWithin v settings (sortNames v.catalogs)).filterMap (typed? v settings)

variable (catalog schema name : String) (rest : List String)

theorem tablesNamed_cons :
    tablesNamed settings catalog schema (name :: rest) =
      if nameAllowed settings name then
        ⟨catalog, schema, name⟩ :: tablesNamed settings catalog schema rest
      else tablesNamed settings catalog schema rest := by
  unfold tablesNamed
  rw [List.filter_cons]
  split <;> rfl

theorem tablesBelow_cons :
    tablesBelow v settings catalog (name :: rest) =
      if exposesSchema settings name then
        tablesNamed settings catalog name (sortNames (v.tables catalog name)) ++
          tablesBelow v settings catalog rest
      else tablesBelow v settings catalog rest := by
  unfold tablesBelow
  rw [List.filter_cons]
  split <;> rfl

theorem tablesWithin_cons :
    tablesWithin v settings (name :: rest) =
      if exposesCatalog settings name then
        tablesBelow v settings name (sortNames (v.schemas name)) ++ tablesWithin v settings rest
      else tablesWithin v settings rest := by
  unfold tablesWithin
  rw [List.filter_cons]
  split <;> rfl

end Tables

/-! ## Names that stay different -/

/-- Different names of the list are rewritten differently. -/
def Separated (names : List String) : Prop :=
  ∀ a ∈ names, ∀ b ∈ names, Name.sanitize a = Name.sanitize b → a = b

theorem pairwise_of_separated {names : List String} (h : Separated names) :
    (sortNames names).Pairwise fun a b => Name.sanitize a ≠ Name.sanitize b := by
  refine (nodup_sortNames names).imp_of_mem ?_
  intro a b ha hb hne heq
  exact hne (h a (mem_sortNames.1 ha) b (mem_sortNames.1 hb) heq)

/-- Every list of the view has names that are rewritten differently. -/
structure SeparatedView (v : View) : Prop where
  catalogs : Separated v.catalogs
  schemas : ∀ catalog, Separated (v.schemas catalog)
  tables : ∀ catalog schema, Separated (v.tables catalog schema)

/-- A list that is written at its place leaves everything below its names fresh. -/
theorem fresh_below {α : Type} {m : Act σ α} {s : Session σ} {a : α} {names : List String}
    {leaf : Leaf} (hm : Yields m s a (· = Path.below names leaf))
    (hfresh : Fresh s (Path.Under names)) (name : String) :
    Fresh (m s).2 (Path.Under (names ++ [name])) := by
  refine hm.fresh (hfresh.mono fun _ h => h.of_append) ?_
  rintro path hunder rfl
  exact Path.not_under_below _ _ _ hunder

/-- What is written below one name leaves the places below the others fresh. -/
theorem fresh_of_ne {α : Type} {m : Act σ α} {s : Session σ} {a : α} {names rest : List String}
    {name : String} (hm : Yields m s a (Path.Under (names ++ [name])))
    (hfresh : ∀ other ∈ rest, Fresh s (Path.Under (names ++ [other])))
    (hne : ∀ other ∈ rest, Name.sanitize name ≠ Name.sanitize other) :
    ∀ other ∈ rest, Fresh (m s).2 (Path.Under (names ++ [other])) := by
  intro other hother
  refine hm.fresh (hfresh other hother) ?_
  intro path hunder hname
  exact hne other hother (hname.sanitize_eq hunder)

/-! ## Tables -/

section Loops

variable {w : Walker σ} {state : σ} {v : View} (settings : Settings) {s : Session σ}

theorem yields_addTable (t : TableRef) (columns : List Column) (r : Registry) {p : Path → Prop} :
    Yields (addTable settings t columns r) s
      (registerAll r ((tableType? settings t columns).map fun type => (t, type)).toList) p := by
  unfold addTable
  refine (yields_tellAll _ s).bind ?_
  cases tableType? settings t columns with
  | none => exact (yields_tell _ _).bind (.pure _ _)
  | some type =>
    rw [Option.map_some, Option.toList_some, registerAll_singleton]
    exact .pure _ _

/-- The loop over the names of a schema registers the tables of the view, and writes below the
schema only. -/
theorem yields_addTables (hw : Shows w state v) (hs : s.source = state) (catalog schema : String)
    {names : List String} (hne : names.Pairwise fun a b => Name.sanitize a ≠ Name.sanitize b)
    (hfresh : ∀ name ∈ names, Fresh s (Path.Under ([catalog, schema] ++ [name])))
    (r : Registry) :
    Yields (addTables w settings catalog schema names r) s
      (registerAll r ((tablesNamed settings catalog schema names).filterMap (typed? v settings)))
      (Path.Under [catalog, schema]) := by
  induction names generalizing s r with
  | nil => exact .pure _ _
  | cons name rest ih =>
    obtain ⟨hhead, hrest⟩ := List.pairwise_cons.1 hne
    have hfreshRest : ∀ other ∈ rest, Fresh s (Path.Under ([catalog, schema] ++ [other])) :=
      fun other hother => hfresh other (List.mem_cons_of_mem _ hother)
    unfold addTables
    by_cases hallowed : nameAllowed settings name = true
    · have hentries : (tablesNamed settings catalog schema (name :: rest)).filterMap
          (typed? v settings) = (typed? v settings ⟨catalog, schema, name⟩).toList ++
            (tablesNamed settings catalog schema rest).filterMap (typed? v settings) := by
        rw [tablesNamed_cons, if_pos hallowed, List.filterMap_cons]
        cases typed? v settings ⟨catalog, schema, name⟩ <;> rfl
      have hcolumns : Yields (w.columns catalog schema name) s (v.columns catalog schema name)
          (Path.Under ([catalog, schema] ++ [name])) := by
        have hplace := hfresh name (by simp)
        have hlist := hw.columns s catalog schema name hs
          (hplace.mono fun _ => Path.under_of_eq_below)
        exact hlist.mono fun _ => Path.under_of_eq_below
      have htable := yields_addTable settings (s := (w.columns catalog schema name s).2)
        (p := Path.Under ([catalog, schema] ++ [name])) ⟨catalog, schema, name⟩
        (v.columns catalog schema name) r
      -- Both acts write below the name of the table, so the places of the other tables stay fresh.
      rw [if_pos hallowed, hentries, registerAll_append]
      refine (hcolumns.mono fun _ h => h.of_append).bind ?_
      refine (htable.mono fun _ h => h.of_append).andThen (fun _ => rfl) ?_
      intro next
      refine ih ?_ hrest ?_ next
      · rw [htable.source, hcolumns.source, hs]
      · exact fresh_of_ne htable (fresh_of_ne hcolumns hfreshRest hhead) hhead
    · rw [if_neg hallowed, tablesNamed_cons, if_neg hallowed]
      refine Yields.after_tell fun t ht hkept => ?_
      exact ih (ht.trans hs) hrest (fun other hother => hkept _ (hfreshRest other hother)) r

/-! ## Schemas -/

theorem yields_addSchemas (hw : Shows w state v) (hv : SeparatedView v) (hs : s.source = state)
    (catalog : String) {names : List String}
    (hne : names.Pairwise fun a b => Name.sanitize a ≠ Name.sanitize b)
    (hfresh : ∀ name ∈ names, Fresh s (Path.Under ([catalog] ++ [name]))) (r : Registry) :
    Yields (addSchemas w settings catalog names r) s
      (registerAll r ((tablesBelow v settings catalog names).filterMap (typed? v settings)))
      (Path.Under [catalog]) := by
  induction names generalizing s r with
  | nil => exact .pure _ _
  | cons name rest ih =>
    obtain ⟨hhead, hrest⟩ := List.pairwise_cons.1 hne
    have hfreshRest : ∀ other ∈ rest, Fresh s (Path.Under ([catalog] ++ [other])) :=
      fun other hother => hfresh other (List.mem_cons_of_mem _ hother)
    unfold addSchemas
    by_cases hexposed : exposesSchema settings name = true
    · obtain ⟨hallows, hallowed⟩ := Bool.and_eq_true_iff.1 hexposed
      have hplace := hfresh name (by simp)
      -- The place of the list is not below any table, so the tables are still fresh.
      have hlist := hw.tables s catalog name hs (hplace.mono fun _ => Path.under_of_eq_below)
      have htables := yields_addTables settings hw (hlist.source.trans hs) catalog name
        (pairwise_of_separated (hv.tables catalog name))
        (fun table _ => fresh_below hlist hplace table) r
      have hlist' := hlist.mono fun _ => Path.under_of_eq_below
      rw [if_neg (by simp [hallows]), if_pos hallowed, tablesBelow_cons, if_pos hexposed,
        List.filterMap_append, registerAll_append]
      refine (hlist'.mono fun _ h => h.of_append).bind ?_
      refine (htables.mono fun _ h => h.of_append).andThen (fun _ => rfl) ?_
      intro next
      refine ih ?_ hrest ?_ next
      · rw [htables.source, hlist.source, hs]
      · exact fresh_of_ne htables (fresh_of_ne hlist' hfreshRest hhead) hhead
    · rw [tablesBelow_cons, if_neg hexposed]
      by_cases hallows : settings.allowsSchema name = true
      · rw [if_neg (by simp [hallows]), if_neg (by simpa [exposesSchema, hallows] using hexposed)]
        refine Yields.after_tell fun t ht hkept => ?_
        exact ih (ht.trans hs) hrest (fun other hother => hkept _ (hfreshRest other hother)) r
      · rw [if_pos (by simp [hallows])]
        exact ih hs hrest hfreshRest r

/-! ## Catalogs -/

theorem map_bind {ε α β γ : Type} (x : Except ε α) (k : α → Except ε β) (g : β → γ) :
    (x >>= k).map g = x >>= fun a => (k a).map g := by
  cases x <;> rfl

theorem yields_addCatalogs (hw : Shows w state v) (hv : SeparatedView v) (hs : s.source = state)
    {names : List String} (hne : names.Pairwise fun a b => Name.sanitize a ≠ Name.sanitize b)
    (hfresh : ∀ name ∈ names, Fresh s (Path.Under ([] ++ [name]))) (r : Registry) :
    Yields (addCatalogs w settings names r) s
      ((registerAll r ((tablesWithin v settings names).filterMap (typed? v settings))).map
        fun last => (names.filter (exposesCatalog settings), last))
      (Path.Under []) := by
  induction names generalizing s r with
  | nil => exact .pure _ _
  | cons name rest ih =>
    obtain ⟨hhead, hrest⟩ := List.pairwise_cons.1 hne
    have hfreshRest : ∀ other ∈ rest, Fresh s (Path.Under ([] ++ [other])) :=
      fun other hother => hfresh other (List.mem_cons_of_mem _ hother)
    unfold addCatalogs
    by_cases hexposed : exposesCatalog settings name = true
    · obtain ⟨hallows, hallowed⟩ := Bool.and_eq_true_iff.1 hexposed
      have hplace := hfresh name (by simp)
      have hlist := hw.schemas s name hs (hplace.mono fun _ => Path.under_of_eq_below)
      have hschemas := yields_addSchemas settings hw hv (hlist.source.trans hs) name
        (pairwise_of_separated (hv.schemas name))
        (fun schema _ => fresh_below hlist hplace schema) r
      have hlist' := hlist.mono fun _ => Path.under_of_eq_below
      rw [if_neg (by simp [hallows]), if_pos hallowed, tablesWithin_cons, if_pos hexposed,
        List.filterMap_append, registerAll_append, map_bind]
      refine (hlist'.mono fun _ h => h.of_append).bind ?_
      refine (hschemas.mono fun _ h => h.of_append).andThen (fun _ => rfl) ?_
      intro next
      have hcatalogs := ih (hschemas.source.trans (hlist.source.trans hs)) hrest
        (fresh_of_ne hschemas (fresh_of_ne hlist' hfreshRest hhead) hhead) next
      refine hcatalogs.bind ?_
      rw [List.filter_cons_of_pos hexposed]
      cases registerAll next ((tablesWithin v settings rest).filterMap (typed? v settings)) with
      | error e => exact .pure _ _
      | ok last => exact .pure _ _
    · rw [tablesWithin_cons, if_neg hexposed, List.filter_cons_of_neg hexposed]
      by_cases hallows : settings.allowsCatalog name = true
      · rw [if_neg (by simp [hallows]), if_neg (by simpa [exposesCatalog, hallows] using hexposed)]
        refine Yields.after_tell fun t ht hkept => ?_
        exact ih (ht.trans hs) hrest (fun other hother => hkept _ (hfreshRest other hother)) r
      · rw [if_pos (by simp [hallows])]
        exact ih hs hrest hfreshRest r

/-! ## The whole walk -/

/-- The assembly registers all tables of the view and makes a schema of them. -/
theorem assemble_eq (hw : Shows w state v) (hv : SeparatedView v) (hs : s.source = state)
    (hfresh : s.store.Vacant) :
    (assemble w settings s).1 =
      (registerAll [] (entries v settings)).map fun r =>
        r.schema ((sortNames v.catalogs).filter (exposesCatalog settings)) := by
  have hlist := hw.catalogs s hs fun path _ _ => hfresh path
  have hcatalogs := yields_addCatalogs settings hw hv (hlist.source.trans hs)
    (pairwise_of_separated hv.catalogs)
    (fun name _ => fresh_below hlist (fun path _ _ => hfresh path) name) []
  have hall : Yields (assemble w settings) s ((registerAll [] (entries v settings)).map fun r =>
      r.schema ((sortNames v.catalogs).filter (exposesCatalog settings))) (fun _ => True) := by
    refine (hlist.mono fun _ _ => trivial).bind ?_
    refine (hcatalogs.mono fun _ _ => trivial).bind ?_
    unfold entries
    cases registerAll [] ((tablesWithin v settings (sortNames v.catalogs)).filterMap
        (typed? v settings)) with
    | error e => exact .pure _ _
    | ok r => exact (yields_tell _ _).bind (.pure _ _)
  exact hall.value

end Loops

end CatalogGraph.Schema
