import CatalogGraph.Proofs.Lookups

/-!
# Discovery is remembered

A walker that reads its cache asks the source once for each key: the first call with the key asks,
the later ones return what the first one returned, until an invalidation covers the key
(`list_memoised`). Along a run the entry under a key only changes by a call with that key or by an
invalidation that covers it, so the state of one entry is what the induction carries.
-/

namespace CatalogGraph.Discovery

open Cache

variable {σ : Type}

/-! ## Runs -/

/-- Something that is asked of a walker. -/
inductive Call where
  | list (l : Lookup)
  /-- Forget everything below a catalog, or everything. -/
  | invalidate (catalog : Option String)
deriving DecidableEq, Repr

/-- What a call made of the source: the list that was returned, the requests, and the state of the
source before it. -/
structure Outcome (σ : Type) where
  call : Call
  reply : Option Listing
  asked : List Request
  source : σ

namespace Call

def key? : Call → Option String
  | .list l => some l.path.key
  | .invalidate _ => none

def run (w : Walker σ) : Call → Act σ (Option Listing)
  | .list l => do return some (← w.list l)
  | .invalidate catalog => do
    let _ ← forget catalog
    return none

end Call

namespace Walker

/-- A call with its outcome. -/
def call (w : Walker σ) (c : Call) (s : Session σ) : Outcome σ × Session σ :=
  let (reply, next) := c.run w s
  (⟨c, reply, next.requests.drop s.requests.length, s.source⟩, next)

def callAll (w : Walker σ) : List Call → Session σ → List (Outcome σ) × Session σ
  | [], s => ([], s)
  | c :: calls, s =>
    let (outcome, next) := w.call c s
    let (outcomes, last) := w.callAll calls next
    (outcome :: outcomes, last)

end Walker

/-! ## One call -/

variable {w : Walker σ} {s : Session σ} {l : Lookup} {path : Path} {found : Listing}

theorem callAll_cons (w : Walker σ) (c : Call) (calls : List Call) (s : Session σ) :
    (w.callAll (c :: calls) s).1 = (w.call c s).1 :: (w.callAll calls (c.run w s).2).1 := rfl

theorem callAll_append (w : Walker σ) (calls more : List Call) (s : Session σ) :
    (w.callAll (calls ++ more) s).2 = (w.callAll more (w.callAll calls s).2).2 := by
  induction calls generalizing s with
  | nil => rfl
  | cons c calls ih => exact ih _

theorem call_call (w : Walker σ) (c : Call) (s : Session σ) : (w.call c s).1.call = c := rfl

theorem run_list (w : Walker σ) (l : Lookup) (s : Session σ) :
    (Call.list l).run w s = (some (w.list l s).1, (w.list l s).2) := rfl

theorem run_invalidate (w : Walker σ) (catalog : Option String) (s : Session σ) :
    (Call.invalidate catalog).run w s =
      (none, { s with store := (s.store.invalidate catalog).2 }) := rfl

theorem space?_run (w : Walker σ) (c : Call) (s : Session σ) :
    (c.run w s).2.store.space? = s.store.space? := by
  cases c with
  | invalidate catalog => exact s.store.space?_invalidate catalog
  | list l =>
    rw [run_list]
    by_cases h : l.Loads w s.store
    · obtain ⟨hcache, found, hload⟩ := h
      obtain ⟨events, hrun⟩ := list_of_loads hcache hload
      rw [hrun]
    · rw [(list_of_not_loads h).store]
      exact s.store.space?_put _ _

theorem find_of_key {store : Store} {other : Path} (h : path.key = other.key) :
    store.find path = store.find other := by
  cases store <;> simp only [Store.find, h]

/-- A call with another key, and an invalidation that does not cover the key, leave the entry. -/
theorem find_run {c : Call} (hkey : c.key? ≠ some path.key)
    (hcovers : ∀ catalog, c = .invalidate catalog →
      Store.covers s.store.space? catalog path.key = false) :
    (c.run w s).2.store.find path = s.store.find path := by
  cases c with
  | invalidate catalog =>
    rw [run_invalidate, Store.find_invalidate, hcovers catalog rfl]
    rfl
  | list l =>
    rw [run_list]
    by_cases h : l.Loads w s.store
    · obtain ⟨hcache, found, hload⟩ := h
      obtain ⟨events, hrun⟩ := list_of_loads hcache hload
      rw [hrun]
    · rw [(list_of_not_loads h).store]
      have hne : path.key ≠ l.path.key := fun e => hkey (congrArg some e.symm)
      exact s.store.find_put_of_ne _ hne

/-- A list in the cache is returned without a request. -/
theorem call_of_load (hcache : w.options.useCache = true) (h : l.load s.store = .ok (some found)) :
    ∃ events, w.call (.list l) s =
      (⟨.list l, some found, [], s.source⟩, { s with events }) := by
  obtain ⟨events, hrun⟩ := list_of_loads hcache h
  refine ⟨events, ?_⟩
  simp only [Walker.call, run_list, hrun, List.drop_length]

/-- A list that is not in the cache is the answer to one request. -/
theorem call_of_not_loads (h : ¬ l.Loads w s.store) :
    (w.call (.list l) s).1 =
      ⟨.list l, some (l.reply (l.answer w s.source).1), [l.request], s.source⟩ := by
  have hfetches := list_of_not_loads h
  simp only [Walker.call, run_list, hfetches.value, hfetches.requests, List.drop_left]

/-! ## Runs between invalidations -/

/-- No call of the run forgets the key. -/
def Spares (space? : Option String) (key : String) (calls : List Call) : Prop :=
  ∀ catalog, .invalidate catalog ∈ calls → Store.covers space? catalog key = false

theorem Spares.tail {space? : Option String} {key : String} {c : Call} {calls : List Call}
    (h : Spares space? key (c :: calls)) : Spares space? key calls :=
  fun catalog hmem => h catalog (List.mem_cons_of_mem _ hmem)

/-- While the cache holds a list, the calls with its key return it and ask nothing. -/
theorem callAll_of_load (hcache : w.options.useCache = true) (calls : List Call)
    (h : l.load s.store = .ok (some found)) (hspares : Spares s.store.space? l.path.key calls) :
    ∀ o ∈ (w.callAll calls s).1, o.call.key? = some l.path.key →
      o.asked = [] ∧ o.reply = some found := by
  -- On the calls: the list stays in the cache, whatever the first of them is.
  induction calls generalizing s with
  | nil => simp [Walker.callAll]
  | cons c calls ih =>
    have hspace := space?_run w c s
    have hnext : l.load (c.run w s).2.store = .ok (some found) := by
      by_cases hkey : c.key? = some l.path.key
      · cases c with
        | invalidate catalog => cases hkey
        | list other =>
          have hsame := Lookup.load_of_key (Option.some.inj hkey) s.store
          obtain ⟨events, hrun⟩ := list_of_loads (w := w) hcache (hsame.trans h)
          rw [run_list, hrun]
          exact h
      · rw [← h]
        apply Lookup.load_of_find
        apply find_run hkey
        rintro catalog rfl
        exact hspares catalog List.mem_cons_self
    intro o ho hkey
    rw [callAll_cons] at ho
    rcases List.mem_cons.1 ho with rfl | ho
    · rw [call_call] at hkey
      cases c with
      | invalidate catalog => cases hkey
      | list other =>
        have hsame := Lookup.load_of_key (Option.some.inj hkey) s.store
        obtain ⟨events, hcall⟩ := call_of_load hcache (hsame.trans h)
        rw [hcall]
        exact ⟨rfl, rfl⟩
    · exact ih hnext (hspace ▸ hspares.tail) o ho hkey

/-- Of the calls with a key, the first one asks the source once and returns its answer, and the
later ones ask nothing and return what the first one returned. -/
def AskedOnce (w : Walker σ) (key : String) (outcomes : List (Outcome σ)) : Prop :=
  match outcomes.filter fun o => o.call.key? == some key with
  | [] => True
  | first :: later =>
    (∃ l, first.call = .list l ∧ first.asked = [l.request] ∧
      first.reply = some (l.reply (l.answer w first.source).1)) ∧
    ∀ o ∈ later, o.asked = [] ∧ o.reply = first.reply

theorem askedOnce_cons_of_ne {key : String} {o : Outcome σ} {outcomes : List (Outcome σ)}
    (hkey : o.call.key? ≠ some key) :
    AskedOnce w key (o :: outcomes) ↔ AskedOnce w key outcomes := by
  have hfalse : (o.call.key? == some key) = false := beq_eq_false_iff_ne.2 hkey
  simp only [AskedOnce, List.filter_cons, hfalse, Bool.false_eq_true, if_false]

theorem askedOnce_cons {key : String} {o : Outcome σ} {outcomes : List (Outcome σ)}
    (hkey : o.call.key? = some key) :
    AskedOnce w key (o :: outcomes) ↔
      (∃ l, o.call = .list l ∧ o.asked = [l.request] ∧
        o.reply = some (l.reply (l.answer w o.source).1)) ∧
      ∀ later ∈ outcomes, later.call.key? = some key →
        later.asked = [] ∧ later.reply = o.reply := by
  have htrue : (o.call.key? == some key) = true := beq_iff_eq.2 hkey
  simp only [AskedOnce, List.filter_cons, htrue, if_true, List.mem_filter, beq_iff_eq, and_imp]

/-- From a session whose cache holds nothing under the key, the source is asked once for it. -/
theorem askedOnce_of_vacant (hcache : w.options.useCache = true) (calls : List Call)
    (h : s.store.find path = .ok none) (hspares : Spares s.store.space? path.key calls) :
    AskedOnce w path.key (w.callAll calls s).1 := by
  -- On the calls: those with other keys leave the key vacant, and after the first one with the key
  -- the list is in the cache.
  induction calls generalizing s with
  | nil => trivial
  | cons c calls ih =>
    have hspace := space?_run w c s
    have hrest : Spares (c.run w s).2.store.space? path.key calls := hspace ▸ hspares.tail
    rw [callAll_cons]
    by_cases hkey : c.key? = some path.key
    · rw [askedOnce_cons hkey]
      cases c with
      | invalidate catalog => cases hkey
      | list l =>
        have hpath : l.path.key = path.key := Option.some.inj hkey
        have hvacant : s.store.find l.path = .ok none := (find_of_key hpath).trans h
        have hnot : ¬ l.Loads w s.store := by
          rintro ⟨-, found, hload⟩
          rw [Lookup.load_of_vacant hvacant] at hload
          cases hload
        have hfetches := list_of_not_loads hnot
        rw [call_of_not_loads hnot, ← hfetches.value]
        rw [← hpath] at hrest ⊢
        have hreply := congrArg some hfetches.value
        exact ⟨⟨l, rfl, rfl, hreply⟩, callAll_of_load hcache calls hfetches.load hrest⟩
    · rw [askedOnce_cons_of_ne hkey]
      refine ih ?_ hrest
      rw [← h]
      apply find_run hkey
      rintro catalog rfl
      exact hspares catalog List.mem_cons_self

/-! ## Memoisation -/

theorem space?_callAll (w : Walker σ) (calls : List Call) (s : Session σ) :
    (w.callAll calls s).2.store.space? = s.store.space? := by
  induction calls generalizing s with
  | nil => rfl
  | cons c calls ih => exact (ih _).trans (space?_run w c s)

/-- How a walker uses its cache, whatever the cache holds and whatever the source answers. -/
structure Memoised (w : Walker σ) : Prop where
  /-- A list that is in the cache is returned, and nothing is asked or written. -/
  found : w.options.useCache = true → ∀ (l : Lookup) (s : Session σ) (found : Listing),
    l.load s.store = .ok (some found) →
      (w.list l s).1 = found ∧ (w.list l s).2.requests = s.requests ∧
        (w.list l s).2.source = s.source ∧ (w.list l s).2.store = s.store
  /-- Every other list, and every list where the cache is not read, is the answer to one request.
  It is in the cache then, and no other key has changed. -/
  fetched : ∀ (l : Lookup) (s : Session σ),
    (w.options.useCache = false ∨ ∀ found, l.load s.store ≠ .ok (some found)) →
      (w.list l s).1 = l.reply (l.answer w s.source).1 ∧
        (w.list l s).2.source = (l.answer w s.source).2 ∧
        (w.list l s).2.requests = s.requests ++ [l.request] ∧
        (w.list l s).2.store = s.store.put l.path (w.list l s).1.json ∧
        l.load (w.list l s).2.store = .ok (some (w.list l s).1) ∧
        ∀ key ≠ s.store.keyOf l.path, (w.list l s).2.store.held? key = s.store.held? key
  /-- From an empty cache, or after an invalidation that covers a key, until the next one, the
  source is asked once for the key if it is requested at all, and all calls return the answer. -/
  once : w.options.useCache = true → ∀ (s : Session σ) (earlier calls : List Call) (path : Path),
    (earlier = [] ∧ s.store.Vacant ∨ ∃ before catalog, earlier = before ++ [.invalidate catalog] ∧
      Store.covers s.store.space? catalog path.key = true) →
    Spares s.store.space? path.key calls →
      AskedOnce w path.key (w.callAll calls (w.callAll earlier s).2).1
  /-- In memory, and in a namespace without NUL, a list is covered by the invalidations of its
  catalog and of everything, and the catalog list by all invalidations. -/
  covered : ∀ space? catalog (l : Lookup), Store.Searchable space? →
    (Store.covers space? catalog l.path.key = true ↔
      ∀ name, catalog = some name → l.path = .catalogs ∨ Path.Under [name] l.path)

theorem list_memoised (w : Walker σ) : Memoised w where
  found hcache l s found hload := by
    obtain ⟨events, hrun⟩ := list_of_loads hcache hload
    rw [hrun]
    exact ⟨rfl, rfl, rfl, rfl⟩
  fetched l s h := by
    have hnot : ¬ l.Loads w s.store := by
      rintro ⟨hcache, found, hload⟩
      rcases h with h | h
      · rw [hcache] at h
        cases h
      · exact h found hload
    have hfetches := list_of_not_loads hnot
    refine ⟨hfetches.value, hfetches.source, hfetches.requests, hfetches.store, hfetches.load, ?_⟩
    intro key hkey
    rw [hfetches.store]
    exact s.store.held?_put _ _ hkey
  once hcache s earlier calls path hearlier hspares := by
    apply askedOnce_of_vacant hcache
    · rcases hearlier with ⟨rfl, hvacant⟩ | ⟨before, catalog, rfl, hcovers⟩
      · exact hvacant path
      · rw [callAll_append]
        change ((w.callAll before s).2.store.invalidate catalog).2.find path = .ok none
        rw [Store.find_invalidate, space?_callAll, hcovers]
        rfl
    · rw [space?_callAll]
      exact hspares
  covered space? catalog l h := Store.covers_iff h catalog l.names l.leaf

end CatalogGraph.Discovery
