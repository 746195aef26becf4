import CatalogGraph.Proofs.JsonText
import CatalogGraph.Proofs.Namespaces

/-!
# Handles of one database

Handles with namespaces take turns at one database: they do operations, and they are closed and
opened again. Each namespace is answered as a memory of its own would be, which gets the operations
of that namespace only (`namespaces_private`). Two facts carry the induction on the turns: a turn in
the namespace keeps it and the memory alike, and a turn in another one leaves it `Untouched`.
-/

namespace CatalogGraph.Cache

/-! ## Changes in another namespace -/

/-- The rows of a namespace are the same in both databases. -/
structure Untouched (space : String) (db db' : Database) : Prop where
  rows_ascending : Dictionary.Ascending db.rows → Dictionary.Ascending db'.rows
  find : ∀ key, db'.find? space key = db.find? space key
  search : ∀ start, db'.search space start = db.search space start

namespace Untouched

variable {db db' : Database} {space other : String}

theorem rfl (space : String) (db : Database) : Untouched space db db :=
  ⟨id, fun _ => Eq.refl _, fun _ => Eq.refl _⟩

theorem trans {db'' : Database} (h : Untouched space db db') (h' : Untouched space db' db'') :
    Untouched space db db'' where
  rows_ascending hdb := h'.rows_ascending (h.rows_ascending hdb)
  find key := (h'.find key).trans (h.find key)
  search start := (h'.search start).trans (h.search start)

theorem mirrors (h : Untouched space db db') {entries : Dictionary Json}
    (hentries : Mirrors db space entries) : Mirrors db' space entries where
  rows_ascending := h.rows_ascending hentries.rows_ascending
  entries_ascending := hentries.entries_ascending
  texts key := by rw [h.find, hentries.texts]
  plain key := by
    rw [h.find]
    exact hentries.plain key

/-- What is answered in a namespace is decided by its rows. -/
theorem answer_eq (h : Untouched space db db') (op : Operation) :
    ((Store.database db' space).perform op).1 = ((Store.database db space).perform op).1 := by
  cases op with
  | put path value => exact Eq.refl _
  | find path => simp only [Store.perform, Store.find, h.find]
  | erase path => simp only [Store.perform, Store.has, h.find]
  | clear start => simp only [Store.perform, Store.count, h.search]
  | invalidate catalog =>
    cases catalog with
    | none => simp only [Store.perform, Store.invalidate, Store.count, h.search]
    | some catalog =>
      simp only [Store.perform, Store.invalidate, Store.count, Store.clear, Store.has,
        Database.find?_clear, h.search, h.find]
  | keys start => simp only [Store.perform, Store.keys, Database.keys, h.search]
  | stats => simp only [Store.perform, Store.stats, h.search]

section

variable (hspace : IsNamespace space) (hother : IsNamespace other) (hne : other ≠ space)

include hspace hother hne

theorem write (db : Database) (key value : String) :
    Untouched space db (db.write other key value) where
  rows_ascending := Dictionary.ascending_insert _
  find k := Dictionary.find?_insert_of_ne _ _ (Database.fullKey_ne hspace hother hne k key)
  search start := Dictionary.filter_insert
    (Database.finds_of_ne hspace hother hne (startsWith_self _) start) value

theorem erase (db : Database) (key : String) : Untouched space db (db.erase other key) where
  rows_ascending := Dictionary.ascending_erase _
  find k := by
    have hfull := Database.fullKey_ne hspace hother hne k key
    simp only [Database.find?, Database.erase, Dictionary.find?_erase, if_neg hfull]
  search start := by
    apply Dictionary.filter_filter_of_imp
    intro row hfinds
    rw [decide_eq_true_eq]
    intro heq
    rw [heq, Database.finds_of_ne hspace hother hne (startsWith_self _)] at hfinds
    exact absurd hfinds (by decide)

theorem clear (db : Database) (start : String) : Untouched space db (db.clear other start) where
  rows_ascending := Dictionary.ascending_filter _
  find k := by
    have hfinds :
        Database.finds (Database.fullKey other start) (Database.fullKey space k) = false :=
      Database.finds_of_ne hother hspace hne.symm (startsWith_self _) start
    simp only [Database.find?, Database.clear]
    rw [Dictionary.find?_filter _ fun key => !Database.finds (Database.fullKey other start) key,
      hfinds]
    simp
  search start' := by
    apply Dictionary.filter_filter_of_imp
    intro row hfinds
    rw [Bool.not_eq_true', Bool.eq_false_iff]
    intro hfinds'
    rw [Database.finds_of_ne hspace hother hne (Database.startsWith_of_finds hfinds')] at hfinds
    exact absurd hfinds (by decide)

theorem perform (db : Database) (op : Operation) :
    Untouched space db (((Store.database db other).perform op).2.database?.getD db) := by
  cases op with
  | put path value => exact write hspace hother hne db path.key value.compact
  | find path => exact rfl space db
  | erase path => exact erase hspace hother hne db path.key
  | clear start => exact clear hspace hother hne db start
  | invalidate catalog =>
    cases catalog with
    | none => exact clear hspace hother hne db ""
    | some catalog =>
      exact (clear hspace hother hne db (Path.catalogRoot catalog)).trans
        (erase hspace hother hne _ Path.catalogs.key)
  | keys start => exact rfl space db
  | stats => exact rfl space db

end

end Untouched

/-! ## Turns -/

/-- What is done with a handle. -/
inductive Turn where
  | operation (op : Operation)
  /-- The handle is closed and opened again. -/
  | reopen

namespace Turn

/-- The operation of a turn. -/
def operation? : Turn → Option Operation
  | .operation op => some op
  | .reopen => none

/-- A turn of a handle with a namespace: the answer, and the database after it. -/
def take (db : Database) (space : String) : Turn → Option Answer × Database
  | .operation op =>
    let (answer, store) := (Store.database db space).perform op
    (some answer, store.database?.getD db)
  | .reopen => (none, db.opened)

/-- What the turn writes can be read back. -/
def Writes (turn : Turn) : Prop := ∀ op, turn = .operation op → op.Writes

end Turn

/-- The items of one namespace, in their order. -/
def within {α : Type} (space : String) (items : List (String × α)) : List α :=
  (items.filter fun item => item.1 == space).map Prod.snd

theorem within_append {α : Type} (space : String) (items more : List (String × α)) :
    within space (items ++ more) = within space items ++ within space more := by
  simp [within]

theorem within_answer (space other : String) (answer : Option Answer) :
    within space (answer.map (other, ·)).toList = if other = space then answer.toList else [] := by
  cases answer with
  | none => simp [within]
  | some answer => by_cases h : other = space <;> simp [within, h]

/-- The operations that a namespace gets. -/
def operations (space : String) (turns : List (String × Turn)) : List Operation :=
  (within space turns).filterMap Turn.operation?

theorem operations_cons (space other : String) (turn : Turn) (turns : List (String × Turn)) :
    operations space ((other, turn) :: turns) =
      (if other = space then turn.operation?.toList else []) ++ operations space turns := by
  by_cases h : other = space
  · cases turn <;> simp [operations, within, h, Turn.operation?, List.filterMap_cons]
  · simp [operations, within, h]

namespace Database

/-- The database is marked with the version that is used. -/
def Current (db : Database) : Prop :=
  ∃ s, db.version = some s ∧ versionNumber? s = some (currentVersion : Int)

theorem opened_eq {db : Database} (h : db.Current) : db.opened = db := by
  obtain ⟨s, hversion, hnumber⟩ := h
  simp only [opened, hversion, hnumber, Option.getD_some, if_true]

theorem version_perform (db : Database) (space : String) (op : Operation) :
    (((Store.database db space).perform op).2.database?.getD db).version = db.version := by
  cases op with
  | invalidate catalog => cases catalog <;> rfl
  | _ => rfl

/-- Turns of handles, each with its namespace, one after the other: the answers with their
namespaces, and the database after all of them. -/
def takeAll (db : Database) : List (String × Turn) → List (String × Answer) × Database
  | [] => ([], db)
  | (space, turn) :: turns =>
    let (answer, next) := turn.take db space
    let (answers, last) := next.takeAll turns
    ((answer.map (space, ·)).toList ++ answers, last)

end Database

variable {db : Database} {space other : String} {entries : Dictionary Json}

theorem current_take (h : db.Current) (space : String) (turn : Turn) :
    (turn.take db space).2.Current := by
  cases turn with
  | operation op =>
    obtain ⟨s, hversion, hnumber⟩ := h
    exact ⟨s, (Database.version_perform db space op).trans hversion, hnumber⟩
  | reopen =>
    unfold Turn.take
    rwa [Database.opened_eq h]

theorem current_takeAll (h : db.Current) (turns : List (String × Turn)) :
    (db.takeAll turns).2.Current := by
  induction turns generalizing db with
  | nil => exact h
  | cons turn turns ih => exact ih (current_take h turn.1 turn.2)

/-- A turn in another namespace. -/
theorem Untouched.take (hspace : IsNamespace space) (hother : IsNamespace other)
    (hne : other ≠ space) (hdb : db.Current) (turn : Turn) :
    Untouched space db (turn.take db other).2 := by
  cases turn with
  | operation op => exact .perform hspace hother hne db op
  | reopen =>
    unfold Turn.take
    rw [Database.opened_eq hdb]
    exact .rfl space db

/-- Any number of turns in other namespaces. -/
theorem Untouched.takeAll (hspace : IsNamespace space) (hdb : db.Current)
    {turns : List (String × Turn)}
    (hturns : ∀ turn ∈ turns, IsNamespace turn.1 ∧ turn.1 ≠ space) :
    Untouched space db (db.takeAll turns).2 := by
  induction turns generalizing db with
  | nil => exact .rfl space db
  | cons first turns ih =>
    obtain ⟨⟨hother, hne⟩, hrest⟩ := List.forall_mem_cons.1 hturns
    have hfirst := Untouched.take hspace hother hne hdb first.2
    exact hfirst.trans (ih (current_take hdb first.1 first.2) hrest)

/-- An operation in the namespace, and the same operation on the memory. -/
theorem Mirrors.perform (h : Mirrors db space entries) (hspace : '\x00' ∉ space.toList)
    {op : Operation} (hop : op.Writes) :
    ∃ answer next answer' entries',
      (Store.database db space).perform op = (answer, .database next space) ∧
      (Store.memory entries).perform op = (answer', .memory entries') ∧
      answer.sizeless = answer'.sizeless ∧ Mirrors next space entries' := by
  obtain ⟨hanswer, halike⟩ := (Alike.intro h).perform hspace hop
  generalize hs : (Store.database db space).perform op = s at hanswer halike
  generalize ht : (Store.memory entries).perform op = t at hanswer halike
  obtain ⟨answer, store⟩ := s
  obtain ⟨answer', store'⟩ := t
  obtain ⟨hnext⟩ := halike
  exact ⟨_, _, _, _, rfl, rfl, hanswer, hnext⟩

/-- What the turns leave, and what is answered to those of one namespace. -/
theorem mirrors_takeAll (hspace : IsNamespace space) {turns : List (String × Turn)}
    (hturns : ∀ turn ∈ turns, IsNamespace turn.1 ∧ turn.2.Writes) (hdb : db.Current)
    (h : Mirrors db space entries) :
    (within space (db.takeAll turns).1).map Answer.sizeless =
        ((Store.memory entries).performAll (operations space turns)).1.map Answer.sizeless ∧
      Alike space (.database (db.takeAll turns).2 space)
        ((Store.memory entries).performAll (operations space turns)).2 := by
  induction turns generalizing db entries with
  | nil => exact ⟨rfl, .intro h⟩
  | cons first turns ih =>
    obtain ⟨other, turn⟩ := first
    obtain ⟨hother, hturn⟩ := hturns _ List.mem_cons_self
    have hrest : ∀ turn ∈ turns, IsNamespace turn.1 ∧ turn.2.Writes :=
      fun turn hmem => hturns turn (List.mem_cons_of_mem _ hmem)
    have hnext := current_take hdb other turn
    simp only [Database.takeAll, within_append, within_answer, operations_cons]
    by_cases heq : other = space
    · subst heq
      simp only [if_true]
      cases turn with
      | reopen =>
        simp only [Turn.take, Turn.operation?, Database.opened_eq hdb]
        exact ih hrest hdb h
      | operation op =>
        obtain ⟨answer, next, answer', entries', hs, ht, hanswer, hmirrors⟩ :=
          h.perform hspace.nul (hturn op rfl)
        simp only [Turn.take, hs] at hnext ⊢
        obtain ⟨hanswers, hlast⟩ := ih hrest hnext hmirrors
        simp only [Turn.operation?, Option.toList_some, List.singleton_append, Store.performAll, ht,
          List.map_cons, hanswer]
        exact ⟨congrArg _ hanswers, hlast⟩
    · simp only [if_neg heq, List.nil_append]
      exact ih hrest hnext ((Untouched.take hspace hother heq hdb turn).mirrors h)

/-- A namespace is used as a memory of its own would be, which holds `entries` at first. -/
structure Private (db : Database) (turns : List (String × Turn)) (space : String)
    (entries : Dictionary Json) : Prop where
  /-- The answers are those of the memory, which gets the operations of the namespace only. -/
  answers : (within space (db.takeAll turns).1).map Answer.sizeless =
    ((Store.memory entries).performAll (operations space turns)).1.map Answer.sizeless
  /-- In the end the namespace holds the entries of the memory. -/
  entries : Alike space (.database (db.takeAll turns).2 space)
    ((Store.memory entries).performAll (operations space turns)).2
  /-- A further turn in another namespace changes no answer in this one, sizes included. -/
  unseen : ∀ other (turn : Turn), IsNamespace other → other ≠ space → ∀ op,
    ((Store.database (turn.take (db.takeAll turns).2 other).2 space).perform op).1 =
      ((Store.database (db.takeAll turns).2 space).perform op).1

/-- Whatever turns the handles of a database take, each namespace is as private as a memory, and
connections have such namespaces. -/
theorem namespaces_private (hspace : IsNamespace space) {turns : List (String × Turn)}
    (hturns : ∀ turn ∈ turns, IsNamespace turn.1 ∧ turn.2.Writes) (hdb : db.Current)
    (h : Mirrors db space entries) :
    Private db turns space entries ∧
      ∀ driver connectionString, IsNamespace (connectionNamespace driver connectionString) := by
  refine ⟨?_, isNamespace_connectionNamespace⟩
  obtain ⟨hanswers, hentries⟩ := mirrors_takeAll hspace hturns hdb h
  refine ⟨hanswers, hentries, ?_⟩
  intro other turn hother hne op
  exact (Untouched.take hspace hother hne (current_takeAll hdb turns) turn).answer_eq op

/-- Two handles write the same place and one of them is closed, opened again and cleared. -/
theorem namespaces_private_pair :
    let turns : List (String × Turn) :=
      [("conn_a", .operation (.put .catalogs (.strings ["hive"]))),
       ("conn_b", .operation (.put .catalogs (.strings ["web"]))),
       ("conn_a", .reopen), ("conn_a", .operation (.clear "")),
       ("conn_b", .operation (.keys "cat")), ("conn_b", .operation (.find .catalogs))]
    IsNamespace "conn_b" ∧ (∀ turn ∈ turns, IsNamespace turn.1 ∧ turn.2.Writes) ∧
      Database.blank.opened.Current ∧ Mirrors Database.blank.opened "conn_b" [] ∧
      Private Database.blank.opened turns "conn_b" [] := by
  intro turns
  have ha : IsNamespace "conn_a" := ⟨by decide, by decide, by decide⟩
  have hb : IsNamespace "conn_b" := ⟨by decide, by decide, by decide⟩
  have hput (names : List String) : (Turn.operation (.put .catalogs (.strings names))).Writes := by
    rintro _ ⟨⟩
    exact ⟨⟨[], .catalogs, rfl⟩, Json.parse?_compact (Json.tidy_strings _ names)⟩
  have hquiet {op : Operation} (hop : op.Writes) : (Turn.operation op).Writes := by
    rintro _ ⟨⟩
    exact hop
  have hturns : ∀ turn ∈ turns, IsNamespace turn.1 ∧ turn.2.Writes := by
    intro turn hturn
    simp only [turns, List.mem_cons, List.not_mem_nil, or_false] at hturn
    rcases hturn with rfl | rfl | rfl | rfl | rfl | rfl
    · exact ⟨ha, hput _⟩
    · exact ⟨hb, hput _⟩
    · exact ⟨ha, fun _ h => nomatch h⟩
    · exact ⟨ha, hquiet trivial⟩
    · exact ⟨hb, hquiet trivial⟩
    · exact ⟨hb, hquiet trivial⟩
  have hdb : Database.blank.opened.Current := ⟨"1", by decide, by decide⟩
  have hmirrors : Mirrors Database.blank.opened "conn_b" [] :=
    mirrors_nil List.Pairwise.nil fun _ => rfl
  exact ⟨hb, hturns, hdb, hmirrors, (namespaces_private hb hturns hdb hmirrors).1⟩

end CatalogGraph.Cache
