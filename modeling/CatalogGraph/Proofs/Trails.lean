import CatalogGraph.Proofs.Lookups

/-!
# Trails of lookups

A trail is what was looked up one after the other, and what was found. An act that does nothing with
a walker but look up lists and tell events follows a trail: wherever a walker finds the lists of the
trail, the act ends alike (`Follows`).

* `Walker.Finds.requests`: the source is asked for nothing but the lists of the trail.
* `Walker.Finds.again`: after a walker that reads its cache has gone along a trail, every walker
  that reads this cache finds the trail again, and only tells events.
-/

namespace CatalogGraph.Discovery

open Cache

variable {σ τ α β : Type}

/-! ## Sessions up to their events -/

/-- The sessions differ in their events only. -/
structure Session.Like (s t : Session σ) : Prop where
  source : t.source = s.source
  store : t.store = s.store
  requests : t.requests = s.requests

namespace Session

variable {s t u : Session σ}

theorem Like.refl (s : Session σ) : s.Like s := ⟨rfl, rfl, rfl⟩

theorem Like.symm (h : s.Like t) : t.Like s := ⟨h.source.symm, h.store.symm, h.requests.symm⟩

theorem Like.trans (h : s.Like t) (k : t.Like u) : s.Like u :=
  ⟨k.source.trans h.source, k.store.trans h.store, k.requests.trans h.requests⟩

theorem like_events (s : Session σ) (events : List Event) : s.Like { s with events } :=
  ⟨rfl, rfl, rfl⟩

end Session

theorem list_like {w : Walker σ} {s t : Session σ} (h : s.Like t) (l : Lookup) :
    (w.list l t).1 = (w.list l s).1 ∧ (w.list l s).2.Like (w.list l t).2 := by
  by_cases hloads : l.Loads w s.store
  · obtain ⟨hcache, found, hload⟩ := hloads
    have hload' : l.load t.store = .ok (some found) := by rw [h.store, hload]
    obtain ⟨events, hs⟩ := list_of_loads hcache hload
    obtain ⟨events', ht⟩ := list_of_loads hcache hload'
    rw [hs, ht]
    exact ⟨rfl, h.source, h.store, h.requests⟩
  · have hloads' : ¬ l.Loads w t.store := by rwa [h.store]
    have hs := list_of_not_loads hloads
    have ht := list_of_not_loads hloads'
    have hvalue : (w.list l t).1 = (w.list l s).1 := by rw [ht.value, hs.value, h.source]
    refine ⟨hvalue, ?_, ?_, ?_⟩
    · rw [ht.source, hs.source, h.source]
    · rw [ht.store, hs.store, h.store, hvalue]
    · rw [ht.requests, hs.requests, h.requests]

/-! ## Trails -/

/-- Lookups one after the other with what they found. -/
abbrev Trail := List (Lookup × Listing)

/-- From the first session, the walker finds the lists of the trail, and gets to the last session
but for the events. -/
inductive Walker.Finds (w : Walker σ) : Session σ → Trail → Session σ → Prop where
  | stop {s t : Session σ} : s.Like t → Finds w s [] t
  | look {s t : Session σ} {l : Lookup} {found : Listing} {trail : Trail} :
      (w.list l s).1 = found → Finds w (w.list l s).2 trail t → Finds w s ((l, found) :: trail) t

theorem requests_list (w : Walker σ) (l : Lookup) (s : Session σ) :
    (w.list l s).2.requests = s.requests ∨ (w.list l s).2.requests = s.requests ++ [l.request] := by
  by_cases h : l.Loads w s.store
  · obtain ⟨hcache, found, hload⟩ := h
    obtain ⟨events, hrun⟩ := list_of_loads hcache hload
    rw [hrun]
    exact Or.inl rfl
  · exact Or.inr (list_of_not_loads h).requests

namespace Walker.Finds

variable {w : Walker σ} {s t u : Session σ} {trail more : Trail}

theorem of_like (h : s.Like t) (hfinds : w.Finds t trail u) : w.Finds s trail u := by
  induction hfinds generalizing s with
  | stop hlike => exact .stop (h.trans hlike)
  | look hfound _ ih =>
    obtain ⟨hvalue, hnext⟩ := list_like (w := w) h _
    exact .look (hvalue.symm.trans hfound) (ih hnext)

theorem append (h : w.Finds s trail t) (hmore : w.Finds t more u) :
    w.Finds s (trail ++ more) u := by
  induction h with
  | stop hlike => exact hmore.of_like hlike
  | look hfound _ ih => exact .look hfound (ih hmore)

theorem split (h : w.Finds s (trail ++ more) u) :
    ∃ t, w.Finds s trail t ∧ w.Finds t more u := by
  induction trail generalizing s with
  | nil => exact ⟨s, .stop (.refl s), h⟩
  | cons step trail ih =>
    cases h with
    | look hfound hrest =>
      obtain ⟨t, hfirst, hlast⟩ := ih hrest
      exact ⟨t, .look hfound hfirst, hlast⟩

/-- Along a trail, the source is asked for nothing but lists of the trail. -/
theorem requests (h : w.Finds s trail t) :
    ∃ asked, t.requests = s.requests ++ asked ∧
      ∀ request ∈ asked, ∃ step ∈ trail, request = step.1.request := by
  induction h with
  | stop hlike => exact ⟨[], by rw [hlike.requests, List.append_nil], by simp⟩
  | @look s t l found trail _ _ ih =>
    obtain ⟨asked, hasked, hmem⟩ := ih
    have htail : ∀ request ∈ asked, ∃ step ∈ (l, found) :: trail, request = step.1.request := by
      intro request hrequest
      obtain ⟨step, hstep, heq⟩ := hmem request hrequest
      exact ⟨step, List.mem_cons_of_mem _ hstep, heq⟩
    rcases requests_list w l s with hnone | hone
    · rw [hnone] at hasked
      exact ⟨asked, hasked, htail⟩
    · rw [hone, List.append_assoc] at hasked
      refine ⟨[l.request] ++ asked, hasked, ?_⟩
      intro request hrequest
      rcases List.mem_append.1 hrequest with hrequest | hrequest
      · exact ⟨(l, found), List.mem_cons_self, List.mem_singleton.1 hrequest⟩
      · exact htail request hrequest

end Walker.Finds

/-! ## Going along a trail again -/

def KeepsLists (store later : Store) : Prop :=
  ∀ (l : Lookup) (found : Listing),
    l.load store = .ok (some found) → l.load later = .ok (some found)

/-- A walker that reads its cache writes only where no list is held, and what it found is held
then. -/
theorem keepsLists_list {w : Walker σ} (hcache : w.options.useCache = true) (l : Lookup)
    (s : Session σ) :
    KeepsLists s.store (w.list l s).2.store ∧
      l.load (w.list l s).2.store = .ok (some (w.list l s).1) := by
  by_cases h : l.Loads w s.store
  · obtain ⟨-, found, hload⟩ := h
    obtain ⟨events, hrun⟩ := list_of_loads hcache hload
    rw [hrun]
    exact ⟨fun _ _ hother => hother, hload⟩
  · have hfetches := list_of_not_loads h
    refine ⟨?_, hfetches.load⟩
    intro other found hother
    have hkey : other.path.key ≠ l.path.key := by
      intro hsame
      apply h
      exact ⟨hcache, found, (Lookup.load_of_key hsame s.store).symm.trans hother⟩
    have hfind : (w.list l s).2.store.find other.path = s.store.find other.path := by
      rw [hfetches.store]
      exact s.store.find_put_of_ne _ hkey
    rw [Lookup.load_of_find hfind, hother]

theorem Walker.Finds.keepsLists {w : Walker σ} {s t : Session σ} {trail : Trail}
    (hcache : w.options.useCache = true) (h : w.Finds s trail t) :
    KeepsLists s.store t.store := by
  induction h with
  | stop hlike =>
    rw [hlike.store]
    exact fun _ _ hfound => hfound
  | @look s t l found trail _ _ ih =>
    obtain ⟨hfirst, -⟩ := keepsLists_list hcache l s
    exact fun other found hload => ih other found (hfirst other found hload)

/-- What a walker found along a trail, every walker finds in the cache that it left, and nothing
but events comes to its session. -/
theorem Walker.Finds.again {w : Walker σ} {s t : Session σ} {trail : Trail}
    (hcache : w.options.useCache = true) (h : w.Finds s trail t) {v : Walker τ}
    (hread : v.options.useCache = true) {u : Session τ} (hstore : KeepsLists t.store u.store) :
    v.Finds u trail u := by
  -- On the first trail. The cache of `v` never changes, so all it needs is that what was found at
  -- one step is still held at the end, whatever was written after it.
  induction h with
  | stop _ => exact .stop (.refl u)
  | @look s t l found trail hfound hrest ih =>
    obtain ⟨-, hheld⟩ := keepsLists_list hcache l s
    rw [hfound] at hheld
    have hkept := hrest.keepsLists hcache l found hheld
    have hload : l.load u.store = .ok (some found) := hstore l found hkept
    obtain ⟨events, hrun⟩ := list_of_loads (w := v) hread hload
    have hlater : v.Finds u trail u := ih hstore
    refine .look (by rw [hrun]) ?_
    rw [hrun]
    exact hlater.of_like (u.like_events events).symm

/-! ## Acts that follow a trail -/

/-- Something that is done with a walker, whatever its source is. -/
abbrev Errand (α : Type) := ∀ σ : Type, Walker σ → Act σ α

/-- Wherever the lists of the trail are found, the errand gives the value, and looks up these lists
and no others. -/
def Follows (m : Errand α) (trail : Trail) (a : α) : Prop :=
  ∀ (σ : Type) (w : Walker σ) (s t : Session σ), w.Finds s trail t →
    (m σ w s).1 = a ∧ t.Like (m σ w s).2

namespace Follows

variable {m : Errand α} {k : α → Errand β} {trail more : Trail} {a : α} {b : β}

theorem like_of_stop {w : Walker σ} {s t : Session σ} (h : w.Finds s [] t) : t.Like s := by
  cases h with
  | stop hlike => exact hlike.symm

theorem pure (a : α) : Follows (fun _ _ => Pure.pure a) [] a :=
  fun _ _ _ _ h => ⟨rfl, like_of_stop h⟩

theorem tellAll (es : List Event) : Follows (fun _ _ => Discovery.tellAll es) [] () :=
  fun _ _ s _ h => ⟨rfl, (like_of_stop h).trans (s.like_events _)⟩

theorem tell (e : Event) : Follows (fun _ _ => Discovery.tell e) [] () :=
  fun _ _ s _ h => ⟨rfl, (like_of_stop h).trans (s.like_events _)⟩

theorem bind (hm : Follows m trail a) (hk : Follows (k a) more b) :
    Follows (fun σ w => m σ w >>= fun x => k x σ w) (trail ++ more) b := by
  intro σ w s u h
  obtain ⟨t, hfirst, hlast⟩ := h.split
  obtain ⟨hvalue, hlike⟩ := hm σ w s t hfirst
  have hrest := hk σ w _ u (hlast.of_like hlike.symm)
  rw [← hvalue] at hrest
  exact hrest

theorem of_list {l : Lookup} {wrap : α → Listing} (hwrap : ∀ x y, wrap x = wrap y → x = y)
    (hlist : ∀ {σ : Type} (w : Walker σ) (s : Session σ),
      w.list l s = (wrap (m σ w s).1, (m σ w s).2)) (a : α) : Follows m [(l, wrap a)] a := by
  intro σ w s t h
  cases h with
  | look hfound hrest =>
    rw [hlist] at hfound hrest
    exact ⟨hwrap _ _ hfound, like_of_stop hrest⟩

end Follows

/-- The errand finds the lists of the trail, and would do the same wherever they are found. -/
structure Way (m : Errand α) (w : Walker σ) (s : Session σ) (trail : Trail) : Prop where
  finds : w.Finds s trail (m σ w s).2
  follows : Follows m trail (m σ w s).1

namespace Way

variable {m : Errand α} {k : α → Errand β} {w : Walker σ} {s : Session σ} {trail more : Trail}

theorem pure (a : α) (w : Walker σ) (s : Session σ) : Way (fun _ _ => Pure.pure a) w s [] :=
  ⟨.stop (.refl s), .pure a⟩

theorem tellAll (es : List Event) (w : Walker σ) (s : Session σ) :
    Way (fun _ _ => Discovery.tellAll es) w s [] :=
  ⟨.stop (s.like_events _), .tellAll es⟩

theorem tell (e : Event) (w : Walker σ) (s : Session σ) :
    Way (fun _ _ => Discovery.tell e) w s [] :=
  ⟨.stop (s.like_events _), .tell e⟩

theorem bind (hm : Way m w s trail) (hk : Way (k (m σ w s).1) w (m σ w s).2 more) :
    Way (fun σ w => m σ w >>= fun a => k a σ w) w s (trail ++ more) :=
  ⟨hm.finds.append hk.finds, hm.follows.bind hk.follows⟩

theorem of_list {l : Lookup} {wrap : α → Listing} (hwrap : ∀ x y, wrap x = wrap y → x = y)
    (hlist : ∀ {σ : Type} (w : Walker σ) (s : Session σ),
      w.list l s = (wrap (m σ w s).1, (m σ w s).2)) (w : Walker σ) (s : Session σ) :
    Way m w s [(l, wrap (m σ w s).1)] := by
  refine ⟨.look ?_ (.stop ?_), .of_list hwrap hlist _⟩
  · rw [hlist]
  · rw [hlist]
    exact .refl _

theorem catalogs (w : Walker σ) (s : Session σ) :
    Way (fun _ w => w.catalogs) w s [(.catalogs, .names (w.catalogs s).1)] :=
  .of_list (fun _ _ => Listing.names.inj) (fun _ _ => rfl) w s

theorem schemas (catalog : String) (w : Walker σ) (s : Session σ) :
    Way (fun _ w => w.schemas catalog) w s
      [(.schemas catalog, .names (w.schemas catalog s).1)] :=
  .of_list (fun _ _ => Listing.names.inj) (fun _ _ => rfl) w s

theorem tables (catalog schema : String) (w : Walker σ) (s : Session σ) :
    Way (fun _ w => w.tables catalog schema) w s
      [(.tables catalog schema, .names (w.tables catalog schema s).1)] :=
  .of_list (fun _ _ => Listing.names.inj) (fun _ _ => rfl) w s

theorem columns (catalog schema table : String) (w : Walker σ) (s : Session σ) :
    Way (fun _ w => w.columns catalog schema table) w s
      [(.columns catalog schema table, .columns (w.columns catalog schema table s).1)] :=
  .of_list (fun _ _ => Listing.columns.inj) (fun _ _ => rfl) w s

/-- An errand that was run once is run again in the cache that it left: it gives the same, asks
nothing and writes nothing, whatever the source of the second walker is. -/
theorem again (h : Way m w s trail) (hcache : w.options.useCache = true) {v : Walker τ}
    (hread : v.options.useCache = true) {t : Session τ} (hstore : t.store = (m σ w s).2.store) :
    (m τ v t).1 = (m σ w s).1 ∧ t.Like (m τ v t).2 := by
  have hkept : KeepsLists (m σ w s).2.store t.store := by
    rw [hstore]
    exact fun _ _ hload => hload
  have hagain : v.Finds t trail t := h.finds.again hcache hread hkept
  exact h.follows τ v t t hagain

end Way

end CatalogGraph.Discovery
