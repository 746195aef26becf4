import CatalogGraph.Discovery.Overlap
import CatalogGraph.Proofs.Spellings
import Mathlib.Data.List.Nodup

/-!
# Overlapping lookups do not disturb each other

Lookups of columns that have different keys may take their steps in any order: each finds what it
would have found at the start, and the cache ends as if they had been done one after the other
(`overlapping_eq`). A step reads and writes at the place of its own lookup only, so the store is at
any time the store of the start with the lists of the finished lookups written into it (`Underway`),
and it does not matter in which order they were written (`recordAll_perm`).
-/

namespace CatalogGraph.Discovery

open Cache Json

variable {σ : Type}

def Progress.isDone : Progress → Bool
  | .done _ => true
  | _ => false

/-- How many steps are left of a lookup. -/
def Progress.left : Progress → Nat
  | .waiting => 3
  | .missed => 2
  | .answered _ => 1
  | .done _ => 0

/-! ## What a lookup finds and writes -/

section Record

variable (w : Walker σ) (state : σ) (catalog schema : String) (start : Store)

/-- What the source answers about a table, with the names as they are handed out. -/
def answerAbout (table : String) : Answer (List Column) :=
  (w.source.columns (Name.restore catalog) (Name.restore schema) (Name.restore table) state).1.map
    (w.columnsOf catalog schema table)

/-- The list in the cache at the start, or else the answer of the source. -/
def outcome (table : String) : List Column :=
  (w.cached? Column.codec (.columns catalog schema table) start).getD
    (listed (answerAbout w state catalog schema table))

/-- A store with the outcome of a lookup, which is written if the cache did not have it at the
start. -/
def record (store : Store) (table : String) : Store :=
  if (w.cached? Column.codec (.columns catalog schema table) start).isSome then store
  else store.save Column.codec.list (.columns catalog schema table)
    (outcome w state catalog schema start table)

/-- The store of the start with the outcomes of several lookups. -/
def recordAll (tables : List String) : Store :=
  tables.foldl (record w state catalog schema start) start

variable {w state catalog schema start} {table other : String} {tables : List String}

theorem columns_key_ne (h : Name.sanitize table ≠ Name.sanitize other) :
    (Path.columns catalog schema table).key ≠ (Path.columns catalog schema other).key := by
  intro hkey
  have hpath := Path.key_injective (Path.plain_below _ _) (Path.plain_below _ _) hkey
  have hsegments := congrArg Path.segments hpath
  simp only [Path.below, List.map_cons, List.map_nil, List.cons.injEq, and_true, true_and]
    at hsegments
  exact h hsegments

theorem find_recordAll {path : Path}
    (h : ∀ table ∈ tables, path.key ≠ (Path.columns catalog schema table).key) :
    (recordAll w state catalog schema start tables).find path = start.find path := by
  -- The writes are a fold, so the induction is on any store that they begin with.
  suffices ∀ store : Store, (tables.foldl (record w state catalog schema start) store).find path =
      store.find path from this start
  induction tables with
  | nil => exact fun _ => rfl
  | cons first rest ih =>
    intro store
    rw [List.foldl_cons, ih fun table hmem => h table (List.mem_cons_of_mem _ hmem)]
    unfold record
    split
    · rfl
    · exact store.find_put_of_ne _ (h first List.mem_cons_self)

theorem record_comm (h : Name.sanitize table ≠ Name.sanitize other) (store : Store) :
    record w state catalog schema start (record w state catalog schema start store table) other =
      record w state catalog schema start (record w state catalog schema start store other)
        table := by
  unfold record
  split <;> split
  · rfl
  · rfl
  · rfl
  · exact store.save_comm _ _ _ (columns_key_ne h)

/-- Outcomes with different keys may be written in any order. -/
theorem recordAll_perm {others : List String} (h : tables.Perm others)
    (hkeys : (tables.map Name.sanitize).Nodup) :
    recordAll w state catalog schema start tables =
      recordAll w state catalog schema start others := by
  apply h.foldl_eq'
  intro a ha b hb store
  by_cases heq : a = b
  · rw [heq]
  · exact record_comm (fun hkey => heq (List.inj_on_of_nodup_map hkeys ha hb hkey)) store

theorem cached?_congr {store : Store} {path : Path} (h : store.find path = start.find path) :
    w.cached? Column.codec path store = w.cached? Column.codec path start := by
  simp only [Walker.cached?, Store.load, h]

end Record

/-! ## Lookups underway -/

section Underway

variable (w : Walker σ) (kept : σ → Prop) (state : σ) (catalog schema : String) (start : Store)

/-- What is known of a lookup at each of its stages. -/
def Stage (table : String) : Progress → Prop
  | .waiting => True
  | .missed => w.cached? Column.codec (.columns catalog schema table) start = none
  | .answered answer =>
    w.cached? Column.codec (.columns catalog schema table) start = none ∧
      answer = answerAbout w state catalog schema table
  | .done columns => columns = outcome w state catalog schema start table

/-- The tables whose lookups are done. -/
def doneTables (lookups : List (String × Progress)) : List String :=
  (lookups.filter fun lookup => lookup.2.isDone).map Prod.fst

/-- Lookups that began in a session with the given store and the given state of the source. -/
structure Underway (lookups : List (String × Progress)) (s : Session σ) : Prop where
  source : kept s.source
  stages : ∀ lookup ∈ lookups, Stage w state catalog schema start lookup.1 lookup.2
  keys : ((lookups.map Prod.fst).map Name.sanitize).Nodup
  store : s.store = recordAll w state catalog schema start (doneTables lookups)

variable {w kept state catalog schema start}

theorem doneTables_sublist (lookups : List (String × Progress)) :
    (doneTables lookups).Sublist (lookups.map Prod.fst) :=
  List.filter_sublist.map _

theorem doneTables_middle {front rest : List (String × Progress)} {table : String}
    {progress : Progress} (h : progress.isDone = false) :
    doneTables (front ++ (table, progress) :: rest) = doneTables (front ++ rest) := by
  simp [doneTables, h]

theorem doneTables_middle_done (front rest : List (String × Progress)) (table : String)
    (columns : List Column) :
    (doneTables (front ++ (table, .done columns) :: rest)).Perm
      (doneTables (front ++ rest) ++ [table]) := by
  have hmiddle : doneTables (front ++ (table, .done columns) :: rest) =
      doneTables front ++ table :: doneTables rest := by
    simp [doneTables, Progress.isDone]
  have hrest : doneTables (front ++ rest) = doneTables front ++ doneTables rest := by
    simp [doneTables]
  rw [hmiddle, hrest]
  exact List.perm_middle.trans (List.perm_append_singleton _ _).symm

namespace Underway

variable {front rest : List (String × Progress)} {table : String} {progress : Progress}
  {s : Session σ}

/-- The key of a lookup that is not done holds what it held at the start. -/
theorem find_eq (h : Underway w kept state catalog schema start
      (front ++ (table, progress) :: rest) s) (hdone : progress.isDone = false) :
    s.store.find (.columns catalog schema table) =
      start.find (.columns catalog schema table) := by
  rw [h.store, doneTables_middle hdone]
  apply find_recordAll
  intro other hother
  apply columns_key_ne
  intro hkey
  have hmem : other ∈ (front ++ rest).map Prod.fst := (doneTables_sublist _).subset hother
  have hkeys := h.keys
  simp only [List.map_append, List.map_cons, List.nodup_middle] at hkeys
  refine (List.nodup_cons.1 hkeys).1 ?_
  rw [hkey, ← List.map_append, ← List.map_append]
  exact List.mem_map_of_mem hmem

theorem replace (h : Underway w kept state catalog schema start
      (front ++ (table, progress) :: rest) s) {next : Progress}
    (hstage : Stage w state catalog schema start table next) {t : Session σ}
    (hsource : kept t.source)
    (hstore : t.store = recordAll w state catalog schema start
      (doneTables (front ++ (table, next) :: rest))) :
    Underway w kept state catalog schema start (front ++ (table, next) :: rest) t where
  source := hsource
  stages := by
    have hstages := h.stages
    simp only [List.forall_mem_append, List.forall_mem_cons] at hstages ⊢
    exact ⟨hstages.1, hstage, hstages.2.2⟩
  keys := by simpa using h.keys
  store := hstore

/-- A lookup goes on without being done, and the store stays. -/
theorem go_on (h : Underway w kept state catalog schema start
      (front ++ (table, progress) :: rest) s) (hdone : progress.isDone = false)
    {next : Progress} (hnext : next.isDone = false)
    (hstage : Stage w state catalog schema start table next) {t : Session σ}
    (hsource : kept t.source) (hstore : t.store = s.store) :
    Underway w kept state catalog schema start (front ++ (table, next) :: rest) t := by
  apply h.replace hstage hsource
  rw [hstore, h.store, doneTables_middle hdone, doneTables_middle hnext]

/-- A lookup gets done, and the store has its outcome. -/
theorem get_done (h : Underway w kept state catalog schema start
      (front ++ (table, progress) :: rest) s) (hdone : progress.isDone = false)
    {columns : List Column} (hcolumns : columns = outcome w state catalog schema start table)
    {t : Session σ} (hsource : kept t.source)
    (hstore : t.store = record w state catalog schema start s.store table) :
    Underway w kept state catalog schema start (front ++ (table, .done columns) :: rest) t := by
  have hstage : Stage w state catalog schema start table (.done columns) := hcolumns
  apply h.replace hstage hsource
  have hkeys :
      ((doneTables (front ++ (table, .done columns) :: rest)).map Name.sanitize).Nodup := by
    refine ((doneTables_sublist _).map _).nodup ?_
    simpa using h.keys
  rw [hstore, h.store, doneTables_middle hdone,
    recordAll_perm (doneTables_middle_done front rest table columns) hkeys, recordAll, recordAll,
    List.foldl_append]
  rfl

variable (hunchanging : Unchanging w.source kept) (hstate : kept state)

include hunchanging hstate

/-- Whatever stage a lookup is at, its next step brings it nearer to its end. -/
theorem step (h : Underway w kept state catalog schema start
      (front ++ (table, progress) :: rest) s) :
    Underway w kept state catalog schema start
        (front ++ (table, (w.step catalog schema table progress s).1) :: rest)
        (w.step catalog schema table progress s).2 ∧
      (w.step catalog schema table progress s).1.left ≤ progress.left - 1 := by
  -- Only reading and writing look at the store, at a key that no other lookup has written.
  cases progress with
  | waiting =>
    obtain ⟨events, hrun⟩ := fromCache_eq w Column.codec (.columns catalog schema table) s
    rw [cached?_congr (h.find_eq rfl)] at hrun
    simp only [Walker.step, bind_run, hrun]
    cases hcached : w.cached? Column.codec (.columns catalog schema table) start with
    | none =>
      have hstage : Stage w state catalog schema start table .missed := hcached
      exact ⟨h.go_on rfl rfl hstage h.source rfl, Nat.le_refl _⟩
    | some found =>
      have hfound : found = outcome w state catalog schema start table := by
        rw [outcome, hcached]
        rfl
      have hstore : s.store = record w state catalog schema start s.store table := by
        rw [record, hcached]
        rfl
      exact ⟨h.get_done rfl hfound h.source hstore, Nat.zero_le _⟩
  | missed =>
    obtain ⟨hsame, hkept⟩ := hunchanging.columns (Name.restore catalog) (Name.restore schema)
      (Name.restore table) h.source hstate
    have hcached : Stage w state catalog schema start table .missed :=
      h.stages (table, .missed) (by simp)
    have hstage : Stage w state catalog schema start table
        (w.step catalog schema table .missed s).1 := by
      refine ⟨hcached, ?_⟩
      rw [answerAbout, ← hsame]
    exact ⟨h.go_on rfl rfl hstage hkept rfl, Nat.le_refl _⟩
  | answered answer =>
    obtain ⟨hcached, hanswer⟩ : Stage w state catalog schema start table (.answered answer) :=
      h.stages (table, .answered answer) (by simp)
    obtain ⟨events, hrun⟩ := settle_eq Column.codec (.columns catalog schema table)
      (Walker.describing catalog schema table) answer s
    simp only [Walker.step, bind_run, hrun]
    have hlisted : listed answer = outcome w state catalog schema start table := by
      rw [outcome, hcached, hanswer]
      rfl
    refine ⟨h.get_done rfl hlisted h.source ?_, Nat.le_refl _⟩
    rw [record, hcached, ← hlisted]
    rfl
  | done columns => exact ⟨h, Nat.le_refl _⟩

theorem takeTurn {lookups : List (String × Progress)}
    (h : Underway w kept state catalog schema start (front ++ lookups) s) (i : Nat) :
    Underway w kept state catalog schema start
        (front ++ (w.takeTurn catalog schema i lookups s).1)
        (w.takeTurn catalog schema i lookups s).2 ∧
      (w.takeTurn catalog schema i lookups s).1.map Prod.fst = lookups.map Prod.fst := by
  induction lookups generalizing front i with
  | nil =>
    cases i <;> exact ⟨h, rfl⟩
  | cons lookup rest ih =>
    obtain ⟨table, progress⟩ := lookup
    cases i with
    | zero => exact ⟨(h.step hunchanging hstate).1, rfl⟩
    | succ i =>
      -- The lookup that is passed over joins those in front.
      have hfront : Underway w kept state catalog schema start
          ((front ++ [(table, progress)]) ++ rest) s := by
        simpa using h
      obtain ⟨hrest, htables⟩ := ih hfront i
      rw [List.append_assoc, List.singleton_append] at hrest
      exact ⟨hrest, congrArg (table :: ·) htables⟩

theorem takeTurns {lookups : List (String × Progress)}
    (h : Underway w kept state catalog schema start lookups s) (turns : List Nat) :
    Underway w kept state catalog schema start (w.takeTurns catalog schema turns lookups s).1
        (w.takeTurns catalog schema turns lookups s).2 ∧
      (w.takeTurns catalog schema turns lookups s).1.map Prod.fst = lookups.map Prod.fst := by
  induction turns generalizing lookups s with
  | nil => exact ⟨h, rfl⟩
  | cons i turns ih =>
    have hstart : Underway w kept state catalog schema start ([] ++ lookups) s := h
    obtain ⟨hturn, htables⟩ := hstart.takeTurn hunchanging hstate i
    obtain ⟨hturns, htables'⟩ := ih hturn
    exact ⟨hturns, htables'.trans htables⟩

/-- Three steps bring a lookup to its end. -/
theorem finish (h : Underway w kept state catalog schema start
      (front ++ (table, progress) :: rest) s) :
    (w.finish catalog schema table progress s).1 =
        outcome w state catalog schema start table ∧
      Underway w kept state catalog schema start
        (front ++ (table, .done (outcome w state catalog schema start table)) :: rest)
        (w.finish catalog schema table progress s).2 := by
  obtain ⟨hfirst, hleft⟩ := h.step hunchanging hstate
  obtain ⟨hsecond, hleft'⟩ := hfirst.step hunchanging hstate
  obtain ⟨hthird, hleft''⟩ := hsecond.step hunchanging hstate
  simp only [Walker.finish, bind_run]
  -- The three steps are named, so that the last one is judged by what is left after it.
  generalize w.step catalog schema table progress s = first at *
  generalize w.step catalog schema table first.1 first.2 = second at *
  generalize w.step catalog schema table second.1 second.2 = third at *
  obtain ⟨last, t⟩ := third
  have hlast : last.left = 0 := by
    have hmost : progress.left ≤ 3 := by cases progress <;> simp [Progress.left]
    simp only at hleft''
    omega
  cases last with
  | done columns =>
    have hcolumns : columns = outcome w state catalog schema start table :=
      hthird.stages (table, .done columns) (by simp)
    subst hcolumns
    exact ⟨rfl, hthird⟩
  | _ => cases hlast

/-- The lookups that are left are finished one after the other. -/
theorem finishAll (h : Underway w kept state catalog schema start (front ++ rest) s) :
    ((rest.mapM fun lookup => w.finish catalog schema lookup.1 lookup.2) s).1 =
        (rest.map Prod.fst).map (outcome w state catalog schema start) ∧
      Underway w kept state catalog schema start
        (front ++ (rest.map Prod.fst).map fun table =>
          (table, .done (outcome w state catalog schema start table)))
        ((rest.mapM fun lookup => w.finish catalog schema lookup.1 lookup.2) s).2 := by
  induction rest generalizing front s with
  | nil => exact ⟨rfl, h⟩
  | cons lookup rest ih =>
    obtain ⟨table, progress⟩ := lookup
    obtain ⟨hvalue, hnext⟩ := h.finish hunchanging hstate
    have hfront : Underway w kept state catalog schema start
        ((front ++ [(table, .done (outcome w state catalog schema start table))]) ++ rest)
        (w.finish catalog schema table progress s).2 := by
      simpa using hnext
    obtain ⟨hvalues, hlast⟩ := ih hfront
    rw [mapM_cons_run, hvalue, hvalues]
    exact ⟨rfl, by simpa using hlast⟩

end Underway

variable {tables : List String} {s : Session σ}

theorem underway_start (hs : kept s.source) (hkeys : (tables.map Name.sanitize).Nodup) :
    Underway w kept state catalog schema s.store
      (tables.map fun table => (table, .waiting)) s where
  source := hs
  stages := by
    intro lookup hlookup
    obtain ⟨table, -, rfl⟩ := List.mem_map.1 hlookup
    trivial
  keys := by simpa [Function.comp_def] using hkeys
  store := by
    have hnone : doneTables (tables.map fun table => (table, Progress.waiting)) = [] := by
      simp [doneTables, Progress.isDone]
    rw [hnone]
    rfl

/-- Whatever turns the lookups take, each returns its outcome, and the store has all outcomes. -/
theorem overlapping_eq (hunchanging : Unchanging w.source kept) (hstate : kept state)
    (hs : kept s.source) (hkeys : (tables.map Name.sanitize).Nodup) (turns : List Nat) :
    (w.overlapping turns catalog schema tables s).1 =
        tables.map (outcome w state catalog schema s.store) ∧
      (w.overlapping turns catalog schema tables s).2.store =
        recordAll w state catalog schema s.store tables ∧
      kept (w.overlapping turns catalog schema tables s).2.source := by
  have hstart : Underway w kept state catalog schema s.store
      (tables.map fun table => (table, .waiting)) s := underway_start hs hkeys
  obtain ⟨hturns, htables⟩ := hstart.takeTurns hunchanging hstate turns
  rw [List.map_map] at htables
  simp only [Function.comp_def, List.map_id'] at htables
  simp only [Walker.overlapping, bind_run]
  generalize w.takeTurns catalog schema turns _ s = out at *
  have hfront : Underway w kept state catalog schema s.store ([] ++ out.1) out.2 := hturns
  obtain ⟨hvalues, hlast⟩ := hfront.finishAll hunchanging hstate
  rw [htables] at hvalues hlast
  refine ⟨hvalues, ?_, hlast.source⟩
  have hdone : doneTables ([] ++ tables.map fun table =>
      (table, .done (outcome w state catalog schema s.store table))) = tables := by
    simp [doneTables, Progress.isDone, List.filter_map, Function.comp_def]
  rw [hlast.store, hdone]

end Underway

/-! ## Without turns -/

theorem finish_waiting (w : Walker σ) (catalog schema table : String) :
    w.finish catalog schema table .waiting = w.columns catalog schema table := by
  funext s
  simp only [Walker.finish, Walker.columns, Walker.discover, Walker.step, bind_run]
  cases w.fromCache Column.codec (.columns catalog schema table) s with
  | mk found t =>
    cases found with
    | none => rfl
    | some found => rfl

/-- Without turns, the lookups are done one after the other. -/
theorem overlapping_nil (w : Walker σ) (catalog schema : String) (tables : List String) :
    w.overlapping [] catalog schema tables = tables.mapM (w.columns catalog schema) := by
  funext s
  have hrun : w.overlapping [] catalog schema tables s =
      ((tables.map fun table => (table, Progress.waiting)).mapM fun lookup =>
        w.finish catalog schema lookup.1 lookup.2) s := rfl
  rw [hrun, List.mapM_map]
  simp only [Function.comp_def, finish_waiting]

theorem catalogColumnsIn_nil {w : Walker σ} (h : w.source.together = none) (catalog : String) :
    w.catalogColumnsIn (fun _ => []) catalog = w.catalogColumns catalog := by
  have hschema (schema : String) :
      w.schemaColumnsIn [] catalog schema = w.schemaColumns catalog schema := by
    unfold Walker.schemaColumnsIn Walker.schemaColumns Walker.columnsOfTables
    simp only [overlapping_nil, h]
  unfold Walker.catalogColumnsIn Walker.catalogColumns
  simp only [hschema]

end CatalogGraph.Discovery
