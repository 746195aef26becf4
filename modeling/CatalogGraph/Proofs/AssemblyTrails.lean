import CatalogGraph.Proofs.Trails
import CatalogGraph.Proofs.Walk

/-!
# The trail of an assembly

An assembly does nothing with its walker but look up lists and tell events, so it goes along a trail
(`leaves_assemble`). Every lookup is opened by the lists of the trail: its names were discovered
there, and the settings expose them. The tables of the schema are tables whose columns were looked
up.
-/

namespace CatalogGraph.Schema

open Discovery Registry

variable {α β : Type}

/-! ## Lookups that a trail opens -/

/-- A list of the trail holds the name. -/
def Discovered (trail : Trail) (l : Lookup) (name : String) : Prop :=
  ∃ names, (l, .names names) ∈ trail ∧ name ∈ names

/-- The names of the lookup were discovered along the trail, and the settings expose them. -/
inductive Opened (settings : Settings) (trail : Trail) : Lookup → Prop where
  | catalogs : Opened settings trail .catalogs
  | schemas {catalog : String} :
      Discovered trail .catalogs catalog → exposesCatalog settings catalog = true →
      Opened settings trail (.schemas catalog)
  | tables {catalog schema : String} :
      Opened settings trail (.schemas catalog) → Discovered trail (.schemas catalog) schema →
      exposesSchema settings schema = true → Opened settings trail (.tables catalog schema)
  | columns {catalog schema table : String} :
      Opened settings trail (.tables catalog schema) →
      Discovered trail (.tables catalog schema) table → nameAllowed settings table = true →
      Opened settings trail (.columns catalog schema table)

variable {settings : Settings} {trail wider : Trail}

theorem Discovered.mono {l : Lookup} {name : String} (h : Discovered trail l name)
    (hsub : trail ⊆ wider) : Discovered wider l name := by
  obtain ⟨names, hmem, hname⟩ := h
  exact ⟨names, hsub hmem, hname⟩

theorem Opened.mono {l : Lookup} (h : Opened settings trail l) (hsub : trail ⊆ wider) :
    Opened settings wider l := by
  induction h with
  | catalogs => exact .catalogs
  | schemas hname hexposed => exact .schemas (hname.mono hsub) hexposed
  | tables _ hname hexposed ih => exact .tables ih (hname.mono hsub) hexposed
  | columns _ hname hallowed ih => exact .columns ih (hname.mono hsub) hallowed

/-- A list of the trail holds all of the names. -/
def AllDiscovered (trail : Trail) (l : Lookup) (names : List String) : Prop :=
  ∀ name ∈ names, Discovered trail l name

theorem AllDiscovered.mono {l : Lookup} {names : List String} (h : AllDiscovered trail l names)
    (hsub : trail ⊆ wider) : AllDiscovered wider l names :=
  fun name hname => (h name hname).mono hsub

theorem allDiscovered_sortNames {l : Lookup} {names : List String} (h : (l, .names names) ∈ trail) :
    AllDiscovered trail l (sortNames names) :=
  fun _ hname => ⟨names, h, mem_sortNames.1 hname⟩

/-! ## Errands that leave a trail -/

/-- The errand goes on from a trail by lookups that are opened, and then the whole trail and what
the errand gives have the property. -/
def Leaves (settings : Settings) (before : Trail) (m : Errand α) (p : Trail → α → Prop) : Prop :=
  ∀ (σ : Type) (w : Walker σ) (s : Session σ), ∃ trail, Way m w s trail ∧
    (∀ step ∈ trail, Opened settings (before ++ trail) step.1) ∧
    p (before ++ trail) (m σ w s).1

section Rules

variable {before : Trail} {m : Errand α} {k : α → Errand β} {p : Trail → α → Prop}
  {q : Trail → β → Prop}

theorem leaves_pure {a : α} (h : p before a) :
    Leaves settings before (fun _ _ => pure a) p := by
  intro σ w s
  refine ⟨[], .pure a w s, by simp, ?_⟩
  rw [List.append_nil]
  exact h

theorem leaves_bind (hm : Leaves settings before m p)
    (hk : ∀ a trail, before ⊆ trail → p trail a → Leaves settings trail (k a) q) :
    Leaves settings before (fun σ w => m σ w >>= fun a => k a σ w) q := by
  intro σ w s
  obtain ⟨first, hfirst, hopened, hp⟩ := hm σ w s
  have hsub : before ⊆ before ++ first := List.subset_append_left before first
  obtain ⟨second, hsecond, hopened', hq⟩ := hk _ _ hsub hp σ w (m σ w s).2
  rw [List.append_assoc] at hopened' hq
  refine ⟨first ++ second, hfirst.bind hsecond, ?_, hq⟩
  intro step hstep
  rcases List.mem_append.1 hstep with hstep | hstep
  · apply (hopened step hstep).mono
    rw [← List.append_assoc]
    exact List.subset_append_left _ second
  · exact hopened' step hstep

theorem leaves_tellAll (es : List Event) :
    Leaves settings before (fun _ _ => tellAll es) fun _ _ => True := by
  intro σ w s
  exact ⟨[], .tellAll es w s, by simp, trivial⟩

theorem leaves_tell (e : Event) :
    Leaves settings before (fun _ _ => tell e) fun _ _ => True := by
  intro σ w s
  exact ⟨[], .tell e w s, by simp, trivial⟩

/-- A list that is opened is looked up, and stands in the trail then. -/
theorem leaves_list {l : Lookup} {wrap : α → Listing} (h : Opened settings before l)
    (hway : ∀ (σ : Type) (w : Walker σ) (s : Session σ), Way m w s [(l, wrap (m σ w s).1)]) :
    Leaves settings before m fun trail a => (l, wrap a) ∈ trail := by
  intro σ w s
  refine ⟨_, hway σ w s, ?_, by simp⟩
  intro step hstep
  rw [List.mem_singleton.1 hstep]
  apply h.mono
  exact List.subset_append_left before _

end Rules

section Failing

variable {ε : Type} {before : Trail} {m : Errand (Except ε α)}
  {k : Except ε α → Errand (Except ε β)} {p : Trail → α → Prop} {q : Trail → β → Prop}

/-- What the errand gives has the property, if it does not fail. -/
def LeavesOk (settings : Settings) (before : Trail) (m : Errand (Except ε α))
    (p : Trail → α → Prop) : Prop :=
  Leaves settings before m fun trail x => ∀ a, x = .ok a → p trail a

theorem leavesOk_ok {a : α} (h : p before a) :
    LeavesOk settings before (fun _ _ => pure (.ok a : Except ε α)) p := by
  apply leaves_pure
  intro b hb
  cases hb
  exact h

theorem leavesOk_bind (hm : LeavesOk settings before m p)
    (herror : ∀ e, k (.error e) = fun _ _ => pure (.error e))
    (hk : ∀ a trail, before ⊆ trail → p trail a → LeavesOk settings trail (k (.ok a)) q) :
    LeavesOk settings before (fun σ w => m σ w >>= fun x => k x σ w) q := by
  refine leaves_bind hm ?_
  intro x trail hsub hp
  cases x with
  | error e =>
    rw [herror]
    exact leaves_pure nofun
  | ok a => exact hk a trail hsub (hp a rfl)

end Failing

/-! ## Registered tables -/

def TableRef.lookup (t : TableRef) : Lookup := .columns t.catalog t.schema t.table

/-- The columns of every registered table were opened along the trail. -/
def Registered (settings : Settings) (trail : Trail) (r : Registry) : Prop :=
  ∀ entry ∈ r, Opened settings trail entry.2.1.lookup

theorem Registered.mono {r : Registry} (h : Registered settings trail r) (hsub : trail ⊆ wider) :
    Registered settings wider r :=
  fun entry hentry => (h entry hentry).mono hsub

theorem Registered.register {r next : Registry} {t : TableRef} {type : ObjectType}
    (h : Registered settings trail r) (ht : Opened settings trail t.lookup)
    (hnext : r.register t type = .ok next) : Registered settings trail next := by
  unfold Registry.register at hnext
  split at hnext
  · cases hnext
  · split at hnext
    · cases hnext
    · cases hnext
      intro entry hentry
      rcases Dictionary.mem_insert hentry with rfl | hold
      · exact ht
      · exact h entry hold

/-! ## The loops of the assembly -/

section Loops

variable {before : Trail} {catalog schema : String} {names : List String} {r : Registry}

theorem leaves_addTable {t : TableRef} (ht : Opened settings before t.lookup)
    (columns : List Column) (hr : Registered settings before r) :
    LeavesOk settings before (fun σ _ => addTable (σ := σ) settings t columns r)
      (Registered settings) := by
  unfold addTable
  refine leaves_bind (leaves_tellAll _) ?_
  intro _ trail hsub _
  cases tableType? settings t columns with
  | some type =>
    apply leaves_pure
    intro next hnext
    exact (hr.mono hsub).register (ht.mono hsub) hnext
  | none =>
    refine leaves_bind (leaves_tell _) ?_
    intro _ trail' hsub' _
    exact leavesOk_ok ((hr.mono hsub).mono hsub')

theorem leaves_addTables (htables : Opened settings before (.tables catalog schema))
    (hnames : AllDiscovered before (.tables catalog schema) names)
    (hr : Registered settings before r) :
    LeavesOk settings before (fun _ w => addTables w settings catalog schema names r)
      (Registered settings) := by
  -- On the names: each step makes the trail wider, and what was discovered stays discovered.
  induction names generalizing before r with
  | nil => exact leavesOk_ok hr
  | cons name rest ih =>
    obtain ⟨hname, hrest⟩ := List.forall_mem_cons.1 hnames
    by_cases hallowed : nameAllowed settings name = true
    · have hcolumns : Opened settings before (.columns catalog schema name) :=
        .columns htables hname hallowed
      simp only [addTables, if_pos hallowed]
      refine leaves_bind (leaves_list hcolumns fun _ => .columns catalog schema name) ?_
      intro columns trail hsub _
      have hopened : Opened settings trail (TableRef.lookup ⟨catalog, schema, name⟩) :=
        hcolumns.mono hsub
      have htable := leaves_addTable hopened columns (hr.mono hsub)
      refine leavesOk_bind htable (fun _ => rfl) ?_
      intro next trail' hsub' hnext
      have hwider : before ⊆ trail' := List.Subset.trans hsub hsub'
      exact ih (htables.mono hwider) (AllDiscovered.mono hrest hwider) hnext
    · simp only [addTables, if_neg hallowed]
      refine leaves_bind (leaves_tell _) ?_
      intro _ trail hsub _
      exact ih (htables.mono hsub) (AllDiscovered.mono hrest hsub) (hr.mono hsub)

theorem leaves_addSchemas (hschemas : Opened settings before (.schemas catalog))
    (hnames : AllDiscovered before (.schemas catalog) names) (hr : Registered settings before r) :
    LeavesOk settings before (fun _ w => addSchemas w settings catalog names r)
      (Registered settings) := by
  induction names generalizing before r with
  | nil => exact leavesOk_ok hr
  | cons name rest ih =>
    obtain ⟨hname, hrest⟩ := List.forall_mem_cons.1 hnames
    by_cases hallows : settings.allowsSchema name = true
    · by_cases hallowed : nameAllowed settings name = true
      · have htables : Opened settings before (.tables catalog name) :=
          .tables hschemas hname (Bool.and_eq_true_iff.2 ⟨hallows, hallowed⟩)
        simp only [addSchemas, hallows, hallowed, Bool.not_true, Bool.false_eq_true, if_false,
          if_true]
        refine leaves_bind (leaves_list htables fun _ => .tables catalog name) ?_
        intro tables trail hsub hfound
        have hloop := leaves_addTables (htables.mono hsub) (allDiscovered_sortNames hfound)
          (hr.mono hsub)
        refine leavesOk_bind hloop (fun _ => rfl) ?_
        intro next trail' hsub' hnext
        have hwider : before ⊆ trail' := List.Subset.trans hsub hsub'
        exact ih (hschemas.mono hwider) (AllDiscovered.mono hrest hwider) hnext
      · simp only [addSchemas, hallows, hallowed, Bool.not_true, Bool.false_eq_true, if_false]
        refine leaves_bind (leaves_tell _) ?_
        intro _ trail hsub _
        exact ih (hschemas.mono hsub) (AllDiscovered.mono hrest hsub) (hr.mono hsub)
    · simp only [addSchemas, hallows, Bool.not_false, if_true]
      exact ih hschemas hrest hr

theorem leaves_addCatalogs (hnames : AllDiscovered before .catalogs names)
    (hr : Registered settings before r) :
    LeavesOk settings before (fun _ w => addCatalogs w settings names r)
      fun trail found => Registered settings trail found.2 := by
  induction names generalizing before r with
  | nil => exact leavesOk_ok hr
  | cons name rest ih =>
    obtain ⟨hname, hrest⟩ := List.forall_mem_cons.1 hnames
    by_cases hallows : settings.allowsCatalog name = true
    · by_cases hallowed : nameAllowed settings name = true
      · have hschemas : Opened settings before (.schemas name) :=
          .schemas hname (Bool.and_eq_true_iff.2 ⟨hallows, hallowed⟩)
        simp only [addCatalogs, hallows, hallowed, Bool.not_true, Bool.false_eq_true, if_false,
          if_true]
        refine leaves_bind (leaves_list hschemas fun _ => .schemas name) ?_
        intro schemas trail hsub hfound
        have hloop := leaves_addSchemas (hschemas.mono hsub) (allDiscovered_sortNames hfound)
          (hr.mono hsub)
        refine leavesOk_bind hloop (fun _ => rfl) ?_
        intro next trail' hsub' hnext
        have hwider : before ⊆ trail' := List.Subset.trans hsub hsub'
        have hlater := ih (AllDiscovered.mono hrest hwider) hnext
        refine leavesOk_bind hlater (fun _ => rfl) ?_
        intro found trail'' _ hfinal
        exact leavesOk_ok hfinal
      · simp only [addCatalogs, hallows, hallowed, Bool.not_true, Bool.false_eq_true, if_false]
        refine leaves_bind (leaves_tell _) ?_
        intro _ trail hsub _
        exact ih (AllDiscovered.mono hrest hsub) (hr.mono hsub)
    · simp only [addCatalogs, hallows, Bool.not_false, if_true]
      exact ih hrest hr

end Loops

/-! ## The whole assembly -/

/-- The columns of the tables of all root fields were opened along the trail. -/
def RootsOpened (settings : Settings) (trail : Trail) (schema : Generated) : Prop :=
  ∀ field ∈ schema.queryFields ++ schema.subscriptionFields,
    Opened settings trail field.table.lookup

theorem Registered.rootsOpened {r : Registry} (h : Registered settings trail r)
    (visible : List String) : RootsOpened settings trail (r.schema visible) := by
  have hfields : ∀ field ∈ r.fields, Opened settings trail field.table.lookup := by
    intro field hfield
    obtain ⟨owned, howned, rfl⟩ := List.mem_map.1 hfield
    obtain ⟨entry, hentry, rfl⟩ := List.mem_map.1 howned
    exact h entry hentry
  intro field hfield
  rcases List.mem_append.1 hfield with hfield | hfield
  · exact hfields field hfield
  · exact hfields field hfield

theorem leaves_assemble (settings : Settings) :
    LeavesOk settings [] (fun _ w => assemble w settings) (RootsOpened settings) := by
  unfold assemble
  refine leaves_bind (leaves_list .catalogs fun _ => .catalogs) ?_
  intro catalogs trail _ hfound
  have hempty : Registered settings trail [] := nofun
  have hloop := leaves_addCatalogs (allDiscovered_sortNames hfound) hempty
  refine leavesOk_bind hloop (fun _ => rfl) ?_
  intro found trail' _ hregistered
  refine leaves_bind (leaves_tell _) ?_
  intro _ trail'' hsub _
  exact leavesOk_ok ((hregistered.mono hsub).rootsOpened found.1)

end CatalogGraph.Schema
