import CatalogGraph.Discovery.Fixture
import CatalogGraph.Discovery.Walker
import CatalogGraph.Proofs.CacheKeys

/-!
# What a walker hands out

As long as the cache holds nothing at the place of a list, the walker asks the source for it and
writes it down at this place only. So every list that is asked for once in a walk is the answer of
the source, whether the cache is read or not. For a source that does not change, these lists are a
view: a function of the names that are handed in.
-/

namespace CatalogGraph.Discovery

open Cache

variable {σ α β : Type}

/-! ## Values and places of an act -/

/-- From the session, the act gives the value, keeps the state of the source, and writes at some
places only. -/
structure Yields (m : Act σ α) (s : Session σ) (a : α) (places : Path → Prop) : Prop where
  value : (m s).1 = a
  source : (m s).2.source = s.source
  elsewhere : ∀ path, path.Plain → ¬ places path → (m s).2.store.find path = s.store.find path

/-- Nothing is written. -/
def nowhere : Path → Prop := fun _ => False

/-- The cache holds nothing at the places. -/
def Fresh (s : Session σ) (places : Path → Prop) : Prop :=
  ∀ path, path.Plain → places path → s.store.find path = .ok none

namespace Yields

variable {m : Act σ α} {k : α → Act σ β} {s : Session σ} {a : α} {b : β} {p q : Path → Prop}

theorem mono (h : Yields m s a p) (hpq : ∀ path, p path → q path) : Yields m s a q where
  value := h.value
  source := h.source
  elsewhere path hplain hq := h.elsewhere path hplain fun hp => hq (hpq path hp)

theorem of_nowhere (h : Yields m s a nowhere) : Yields m s a p := h.mono fun _ => False.elim

theorem pure (s : Session σ) (a : α) : Yields (Pure.pure a : Act σ α) s a p :=
  ⟨rfl, rfl, fun _ _ _ => rfl⟩

theorem bind (hm : Yields m s a p) (hk : Yields (k a) (m s).2 b p) : Yields (m >>= k) s b p := by
  have hrun : (m >>= k) s = k a (m s).2 := by
    rw [← hm.value]
    rfl
  refine ⟨?_, ?_, ?_⟩
  · rw [hrun, hk.value]
  · rw [hrun, hk.source, hm.source]
  · intro path hplain hp
    rw [hrun, hk.elsewhere path hplain hp, hm.elsewhere path hplain hp]

theorem andThen {ε : Type} {m : Act σ (Except ε α)} {k : Except ε α → Act σ (Except ε β)}
    {x : Except ε α} {y : α → Except ε β} (hm : Yields m s x p)
    (herror : ∀ e, k (.error e) = Pure.pure (.error e))
    (hk : ∀ a, Yields (k (.ok a)) (m s).2 (y a) p) : Yields (m >>= k) s (x >>= y) p := by
  refine hm.bind ?_
  cases x with
  | error e =>
    rw [herror]
    exact .pure _ _
  | ok a => exact hk a

theorem fresh (h : Yields m s a p) (hfresh : Fresh s q) (hpq : ∀ path, q path → ¬ p path) :
    Fresh (m s).2 q := by
  intro path hplain hq
  rw [h.elsewhere path hplain (hpq path hq)]
  exact hfresh path hplain hq

end Yields

theorem Fresh.mono {s : Session σ} {p q : Path → Prop} (h : Fresh s q)
    (hpq : ∀ path, p path → q path) : Fresh s p :=
  fun path hplain hp => h path hplain (hpq path hp)

theorem yields_tell (e : Event) (s : Session σ) {p : Path → Prop} : Yields (tell e) s () p :=
  ⟨rfl, rfl, fun _ _ _ => rfl⟩

theorem yields_tellAll (es : List Event) (s : Session σ) {p : Path → Prop} :
    Yields (tellAll es) s () p :=
  ⟨rfl, rfl, fun _ _ _ => rfl⟩

/-- What an act yields in every session with the same source and cache, it yields after an event. -/
theorem Yields.after_tell {e : Event} {k : Act σ α} {s : Session σ} {a : α} {p : Path → Prop}
    (hk : ∀ t : Session σ, t.source = s.source → (∀ q, Fresh s q → Fresh t q) → Yields k t a p) :
    Yields (tell e >>= fun _ => k) s a p :=
  (yields_tell e s).bind (hk _ rfl fun _ h => h)

theorem yields_save (codec : Json.Codec α) {path : Path} (hpath : path.Plain) (value : α)
    (s : Session σ) : Yields (save codec path value) s () (· = path) where
  value := rfl
  source := rfl
  elsewhere _ hother hne := s.store.find_save_of_ne codec value hpath hother hne

/-! ## One list -/

/-- The values of an answer, none where the source failed. -/
def listed : Answer (List α) → List α
  | .ok values => values
  | .error _ => []

theorem yields_settle (codec : Json.Codec α) {path : Path} (hpath : path.Plain)
    (statement : String) (answer : Answer (List α)) (s : Session σ) :
    Yields (Walker.settle codec path statement answer) s (listed answer) (· = path) := by
  cases answer with
  | ok values => exact (yields_save codec.list hpath values s).bind (.pure _ _)
  | error e =>
    refine (yields_tell _ s).bind ?_
    exact (yields_save codec.list hpath [] _).bind (.pure _ _)

theorem fromCache_of_fresh (w : Walker σ) (codec : Json.Codec α) {path : Path} {s : Session σ}
    (h : s.store.find path = .ok none) : w.fromCache codec path s = (none, s) := by
  unfold Walker.fromCache
  rw [Store.load_of_find codec.list h]
  cases w.options.useCache <;> rfl

/-- A list that the cache does not hold is the answer of the source, and is written at its place
only. -/
theorem yields_discover (w : Walker σ) (codec : Json.Codec α) {path : Path} (statement : String)
    {request : Act σ (Answer (List α))} {answer : Answer (List α)} {s : Session σ}
    (hpath : path.Plain) (hfresh : Fresh s (· = path))
    (hrequest : ∀ t : Session σ, t.source = s.source → Yields request t answer nowhere) :
    Yields (w.discover codec path statement request) s (listed answer) (· = path) := by
  have hcache : Yields (w.fromCache codec path) s none (· = path) := by
    have hrun := fromCache_of_fresh w codec (hfresh path hpath rfl)
    refine ⟨?_, ?_, ?_⟩ <;> simp [hrun]
  refine hcache.bind ?_
  have htell := yields_tell (p := (· = path)) (asking statement) (w.fromCache codec path s).2
  refine htell.bind ?_
  refine (hrequest _ (htell.source.trans hcache.source)).of_nowhere.bind ?_
  exact yields_settle codec hpath statement answer _

/-! ## Views -/

/-- The lists that a walker hands out, by the names that are handed in. -/
structure View where
  catalogs : List String
  schemas : String → List String
  tables : String → String → List String
  columns : String → String → String → List Column

/-- In every session with the given state of the source, the walker hands out the lists of a view
where the cache holds nothing at their places. -/
structure Shows (w : Walker σ) (state : σ) (v : View) : Prop where
  catalogs : ∀ s : Session σ, s.source = state → Fresh s (· = Path.catalogs) →
    Yields w.catalogs s v.catalogs (· = Path.catalogs)
  schemas : ∀ (s : Session σ) (catalog : String), s.source = state →
    Fresh s (· = Path.schemas catalog) →
    Yields (w.schemas catalog) s (v.schemas catalog) (· = Path.schemas catalog)
  tables : ∀ (s : Session σ) (catalog schema : String), s.source = state →
    Fresh s (· = Path.tables catalog schema) →
    Yields (w.tables catalog schema) s (v.tables catalog schema)
      (· = Path.tables catalog schema)
  columns : ∀ (s : Session σ) (catalog schema table : String), s.source = state →
    Fresh s (· = Path.columns catalog schema table) →
    Yields (w.columns catalog schema table) s (v.columns catalog schema table)
      (· = Path.columns catalog schema table)

/-! ## The view of a fixture -/

namespace Fixture

/-- The walker over a fixture with the given options. -/
def walker (options : Options) : Walker Fixture := ⟨source, options⟩

/-- What the walker hands out of a fixture. -/
def view (f : Fixture) (options : Options) : View where
  catalogs := f.tree.keys.map (walker options).spell
  schemas catalog :=
    listed (((f.catalog (Name.restore catalog)).map Dictionary.keys).map
      (List.map (walker options).spell))
  tables catalog schema :=
    listed (((f.schema (Name.restore catalog) (Name.restore schema)).map Dictionary.keys).map
      (List.map (walker options).spell))
  columns catalog schema table :=
    listed ((f.table (Name.restore catalog) (Name.restore schema) (Name.restore table)).map
      ((walker options).columnsOf catalog schema table))

theorem shows_view (f : Fixture) (options : Options) :
    Shows (walker options) f (f.view options) where
  catalogs s hs hfresh := by
    subst hs
    change Yields _ s (listed (.ok (s.source.tree.keys.map (walker options).spell))) _
    refine yields_discover _ _ _ (Path.plain_below _ _) hfresh ?_
    intro t ht
    exact ⟨by rw [← ht]; rfl, rfl, fun _ _ _ => rfl⟩
  schemas s catalog hs hfresh := by
    subst hs
    refine yields_discover _ _ _ (Path.plain_below _ _) hfresh ?_
    intro t ht
    exact ⟨by rw [← ht]; rfl, rfl, fun _ _ _ => rfl⟩
  tables s catalog schema hs hfresh := by
    subst hs
    refine yields_discover _ _ _ (Path.plain_below _ _) hfresh ?_
    intro t ht
    exact ⟨by rw [← ht]; rfl, rfl, fun _ _ _ => rfl⟩
  columns s catalog schema table hs hfresh := by
    subst hs
    refine yields_discover _ _ _ (Path.plain_below _ _) hfresh ?_
    intro t ht
    exact ⟨by rw [← ht]; rfl, rfl, fun _ _ _ => rfl⟩

end Fixture

end CatalogGraph.Discovery
