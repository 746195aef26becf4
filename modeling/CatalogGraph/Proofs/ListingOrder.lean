import CatalogGraph.Proofs.TableTypes
import CatalogGraph.Proofs.Trails
import CatalogGraph.Schema.Document

/-!
# The order of listings

A walker lists catalogs, schemas and tables in any order, and may list a name several times. An
assembly sorts a list of names before it goes along it, so only the set of the names matters: with
two walkers that list the same names and the same columns, the assemblies give the same schema and
document, or the same collision (`assemble_of_answersAlike`).

The walkers need not work over sources of one kind, and a source may answer differently each time;
it only matters that the two answer alike each time that the assembly asks them.
-/

namespace CatalogGraph.Discovery

variable {σ τ α β : Type}

/-! ## Walkers that answer alike -/

/-- Lists of names hold the same names, in any order and any number of times. Lists of columns are
the same. -/
def Listing.Alike : Listing → Listing → Prop
  | .names ns, .names ms => ∀ name, name ∈ ns ↔ name ∈ ms
  | .columns cs, .columns ds => cs = ds
  | _, _ => False

namespace Walker

/-- The session after the lookups of the trail, whatever they found. -/
def after (v : Walker τ) (t : Session τ) : Trail → Session τ
  | [] => t
  | (l, _) :: trail => v.after (v.list l t).2 trail

/-- The walker makes the lookups of the trail one after the other, and finds a list like the one of
the trail each time. -/
def Resembles (v : Walker τ) (t : Session τ) : Trail → Prop
  | [] => True
  | (l, found) :: trail => found.Alike (v.list l t).1 ∧ v.Resembles (v.list l t).2 trail

variable {v : Walker τ} {t u : Session τ} {trail more : Trail}

theorem after_append : v.after t (trail ++ more) = v.after (v.after t trail) more := by
  induction trail generalizing t with
  | nil => rfl
  | cons step trail ih => exact ih

theorem resembles_append :
    v.Resembles t (trail ++ more) ↔ v.Resembles t trail ∧ v.Resembles (v.after t trail) more := by
  induction trail generalizing t with
  | nil => exact (and_iff_right trivial).symm
  | cons step trail ih => exact (and_congr_right fun _ => ih).trans and_assoc.symm

theorem after_like (h : t.Like u) (trail : Trail) : (v.after t trail).Like (v.after u trail) := by
  induction trail generalizing t u with
  | nil => exact h
  | cons step trail ih => exact ih (list_like h step.1).2

theorem Resembles.of_like (h : t.Like u) (hresembles : v.Resembles t trail) :
    v.Resembles u trail := by
  induction trail generalizing t u with
  | nil => trivial
  | cons step trail ih =>
    obtain ⟨hvalue, hnext⟩ := list_like (w := v) h step.1
    obtain ⟨hfirst, hrest⟩ := hresembles
    refine ⟨?_, ih hnext hrest⟩
    rwa [hvalue]

/-- Walkers that answer every lookup alike, in whatever sessions, resemble each other along every
trail. -/
theorem Finds.resembles {w : Walker σ} {s s' : Session σ} (h : w.Finds s trail s')
    (halike : ∀ l s t, (w.list l s).1.Alike (v.list l t).1) (t : Session τ) :
    v.Resembles t trail := by
  induction h generalizing t with
  | stop _ => trivial
  | look hfound _ ih =>
    refine ⟨?_, ih _⟩
    rw [← hfound]
    exact halike _ _ _

end Walker

/-- Whatever the first walker is asked in the errand, the second one, asked the same, answers
alike. -/
def AnswersAlike (m : Errand α) (w : Walker σ) (s : Session σ) (v : Walker τ) (t : Session τ) :
    Prop :=
  ∀ trail, Way m w s trail → v.Resembles t trail

/-! ## Errands with walkers that answer alike -/

/-- With every walker that resembles the trail, what the errand gives has the property, and its
lookups are those of the trail. -/
def Tolerates (m : Errand α) (trail : Trail) (p : α → Prop) : Prop :=
  ∀ (τ : Type) (v : Walker τ) (t : Session τ), v.Resembles t trail →
    p (m τ v t).1 ∧ (v.after t trail).Like (m τ v t).2

namespace Tolerates

variable {m : Errand α} {k : α → Errand β} {trail more : Trail} {p : α → Prop} {q : β → Prop}

theorem pure {a : α} (h : p a) : Tolerates (fun _ _ => Pure.pure a) [] p :=
  fun _ _ t _ => ⟨h, .refl t⟩

theorem tellAll (es : List Event) :
    Tolerates (fun _ _ => Discovery.tellAll es) [] fun _ => True :=
  fun _ _ t _ => ⟨trivial, t.like_events _⟩

theorem tell (e : Event) : Tolerates (fun _ _ => Discovery.tell e) [] fun _ => True :=
  fun _ _ t _ => ⟨trivial, t.like_events _⟩

theorem bind (hm : Tolerates m trail p) (hk : ∀ a, p a → Tolerates (k a) more q) :
    Tolerates (fun σ w => m σ w >>= fun a => k a σ w) (trail ++ more) q := by
  intro τ v t h
  obtain ⟨hfirst, hlast⟩ := Walker.resembles_append.1 h
  obtain ⟨hp, hlike⟩ := hm τ v t hfirst
  obtain ⟨hq, hlike'⟩ := hk _ hp τ v (m τ v t).2 (hlast.of_like hlike)
  refine ⟨hq, ?_⟩
  rw [Walker.after_append]
  exact (Walker.after_like hlike more).trans hlike'

theorem of_list {l : Lookup} {wrap : α → Listing}
    (hlist : ∀ {σ : Type} (w : Walker σ) (s : Session σ),
      w.list l s = (wrap (m σ w s).1, (m σ w s).2)) (found : Listing) :
    Tolerates m [(l, found)] fun a => found.Alike (wrap a) := by
  rintro τ v t ⟨hfound, -⟩
  rw [hlist] at hfound
  refine ⟨hfound, ?_⟩
  have hafter : v.after t [(l, found)] = (m τ v t).2 := congrArg Prod.snd (hlist v t)
  rw [hafter]
  exact .refl _

end Tolerates

/-- With walkers that answer alike on the way of the errand, what it gives is the same in the given
sense. -/
def Steady (m : Errand α) (same : α → α → Prop) : Prop :=
  ∀ (σ : Type) (w : Walker σ) (s : Session σ), ∃ trail,
    Way m w s trail ∧ Tolerates m trail (same (m σ w s).1)

namespace Steady

variable {m : Errand α} {k : α → Errand β} {same : α → α → Prop} {alike : β → β → Prop}

theorem pure (a : α) : Steady (fun _ _ => Pure.pure a) Eq :=
  fun _ w s => ⟨[], .pure a w s, .pure rfl⟩

theorem tellAll (es : List Event) : Steady (fun _ _ => Discovery.tellAll es) fun _ _ => True :=
  fun _ w s => ⟨[], .tellAll es w s, .tellAll es⟩

theorem tell (e : Event) : Steady (fun _ _ => Discovery.tell e) fun _ _ => True :=
  fun _ w s => ⟨[], .tell e w s, .tell e⟩

/-- What the first part gives enters the second part only up to what is the same in it. -/
theorem bind (hm : Steady m same) (hsame : ∀ a b, same a b → k b = k a)
    (hk : ∀ a, Steady (k a) alike) :
    Steady (fun σ w => m σ w >>= fun a => k a σ w) alike := by
  intro σ w s
  obtain ⟨first, hway, htolerates⟩ := hm σ w s
  obtain ⟨last, hway', htolerates'⟩ := hk (m σ w s).1 σ w (m σ w s).2
  refine ⟨first ++ last, hway.bind hway', htolerates.bind ?_⟩
  intro b hb
  rw [hsame _ b hb]
  exact htolerates'

theorem after_tell (e : Event) (hm : Steady m same) :
    Steady (fun σ w => Discovery.tell e >>= fun _ => m σ w) same :=
  (Steady.tell e).bind (fun _ _ _ => rfl) fun _ => hm

theorem of_list (l : Lookup) (wrap : α → Listing) (hwrap : ∀ x y, wrap x = wrap y → x = y)
    (hlist : ∀ {σ : Type} (w : Walker σ) (s : Session σ),
      w.list l s = (wrap (m σ w s).1, (m σ w s).2)) :
    Steady m fun a b => (wrap a).Alike (wrap b) :=
  fun _ w s => ⟨_, .of_list hwrap hlist w s, .of_list hlist _⟩

theorem catalogs : Steady (fun _ w => w.catalogs) fun a b => ∀ name, name ∈ a ↔ name ∈ b :=
  of_list .catalogs .names (fun _ _ => Listing.names.inj) fun _ _ => rfl

theorem schemas (catalog : String) :
    Steady (fun _ w => w.schemas catalog) fun a b => ∀ name, name ∈ a ↔ name ∈ b :=
  of_list (.schemas catalog) .names (fun _ _ => Listing.names.inj) fun _ _ => rfl

theorem tables (catalog schema : String) :
    Steady (fun _ w => w.tables catalog schema) fun a b => ∀ name, name ∈ a ↔ name ∈ b :=
  of_list (.tables catalog schema) .names (fun _ _ => Listing.names.inj) fun _ _ => rfl

theorem columns (catalog schema table : String) :
    Steady (fun _ w => w.columns catalog schema table) Eq :=
  of_list (.columns catalog schema table) .columns (fun _ _ => Listing.columns.inj) fun _ _ => rfl

end Steady

end CatalogGraph.Discovery

namespace CatalogGraph.Schema

open Cache Discovery Registry

variable {σ τ α β : Type}

/-! ## The loops of the assembly -/

theorem sortNames_congr {names others : List String} (h : ∀ name, name ∈ names ↔ name ∈ others) :
    sortNames others = sortNames names := by
  refine Sorted.eq_of_pairwise String.lt_irrefl (fun _ _ _ => String.lt_trans)
    (pairwise_sortNames others) (pairwise_sortNames names) ?_
  intro name
  rw [mem_sortNames, mem_sortNames, h name]

/-- An errand that goes on from what was given, and stops at a failure. -/
theorem Steady.andThen {ε : Type} {m : Errand (Except ε α)} {k : Except ε α → Errand (Except ε β)}
    (hm : Steady m Eq) (herror : ∀ e, k (.error e) = fun _ _ => pure (.error e))
    (hk : ∀ a, Steady (k (.ok a)) Eq) :
    Steady (fun σ w => m σ w >>= fun x => k x σ w) Eq := by
  refine hm.bind (fun _ _ h => by rw [h]) ?_
  intro x
  cases x with
  | error e =>
    rw [herror]
    exact .pure _
  | ok a => exact hk a

section Loops

variable (settings : Settings)

theorem steady_addTable (t : TableRef) (columns : List Column) (r : Registry) :
    Steady (fun σ _ => addTable (σ := σ) settings t columns r) Eq := by
  unfold addTable
  refine (Steady.tellAll _).bind (fun _ _ _ => rfl) ?_
  intro _
  cases tableType? settings t columns with
  | some type => exact .pure _
  | none => exact .after_tell _ (.pure _)

theorem steady_addTables (catalog schema : String) (names : List String) (r : Registry) :
    Steady (fun _ w => addTables w settings catalog schema names r) Eq := by
  induction names generalizing r with
  | nil => exact .pure _
  | cons name rest ih =>
    by_cases hallowed : nameAllowed settings name = true
    · simp only [addTables, if_pos hallowed]
      refine (Steady.columns catalog schema name).bind (fun _ _ h => by rw [h]) ?_
      intro columns
      exact Steady.andThen (steady_addTable settings _ columns r) (fun _ => rfl) ih
    · simp only [addTables, if_neg hallowed]
      exact .after_tell _ (ih r)

theorem steady_addSchemas (catalog : String) (names : List String) (r : Registry) :
    Steady (fun _ w => addSchemas w settings catalog names r) Eq := by
  induction names generalizing r with
  | nil => exact .pure _
  | cons name rest ih =>
    by_cases hallows : settings.allowsSchema name = true
    · by_cases hallowed : nameAllowed settings name = true
      · simp only [addSchemas, hallows, hallowed, Bool.not_true, Bool.false_eq_true, if_false,
          if_true]
        refine (Steady.tables catalog name).bind (fun _ _ h => by rw [sortNames_congr h]) ?_
        intro tables
        exact Steady.andThen (steady_addTables settings catalog name _ r) (fun _ => rfl) ih
      · simp only [addSchemas, hallows, hallowed, Bool.not_true, Bool.false_eq_true, if_false]
        exact .after_tell _ (ih r)
    · simp only [addSchemas, hallows, Bool.not_false, if_true]
      exact ih r

theorem steady_addCatalogs (names : List String) (r : Registry) :
    Steady (fun _ w => addCatalogs w settings names r) Eq := by
  induction names generalizing r with
  | nil => exact .pure _
  | cons name rest ih =>
    by_cases hallows : settings.allowsCatalog name = true
    · by_cases hallowed : nameAllowed settings name = true
      · simp only [addCatalogs, hallows, hallowed, Bool.not_true, Bool.false_eq_true, if_false,
          if_true]
        refine (Steady.schemas name).bind (fun _ _ h => by rw [sortNames_congr h]) ?_
        intro schemas
        refine Steady.andThen (steady_addSchemas settings name _ r) (fun _ => rfl) ?_
        intro next
        exact (ih next).bind (fun _ _ h => by rw [h]) fun _ => .pure _
      · simp only [addCatalogs, hallows, hallowed, Bool.not_true, Bool.false_eq_true, if_false]
        exact .after_tell _ (ih r)
    · simp only [addCatalogs, hallows, Bool.not_false, if_true]
      exact ih r

theorem steady_assemble : Steady (fun _ w => assemble w settings) Eq := by
  unfold assemble
  refine Steady.catalogs.bind (fun _ _ h => by rw [sortNames_congr h]) ?_
  intro catalogs
  refine Steady.andThen (steady_addCatalogs settings _ []) (fun _ => rfl) ?_
  intro found
  exact .after_tell _ (.pure _)

end Loops

/-! ## The whole assembly -/

/-- With two walkers that answer alike, the assemblies give the same schema and the same document,
or the same collision with the same owners in the same order. -/
theorem assemble_of_answersAlike (settings : Settings) (w : Walker σ) (s : Session σ)
    (v : Walker τ) (t : Session τ) (h : AnswersAlike (fun _ w => assemble w settings) w s v t) :
    (assemble v settings t).1 = (assemble w settings s).1 ∧
      (assemble v settings t).1.map document = (assemble w settings s).1.map document := by
  obtain ⟨trail, hway, htolerates⟩ := steady_assemble settings σ w s
  obtain ⟨hresult, -⟩ := htolerates τ v t (h trail hway)
  exact ⟨hresult.symm, by rw [hresult]⟩

/-- A source that lists names forwards, and backwards and forwards in every second answer, and one
that lists the same names in another order: both assemblies name the same owners of the collision,
and without the second catalog both give the same schema. -/
theorem assemble_of_answersAlike_reordered :
    let turning (names : List String) (n : Nat) : Answer (List String) × Nat :=
      (.ok (if n % 2 = 0 then names else names.reverse ++ names), n + 1)
    let first : Source Nat :=
      { catalogs := turning ["a", "a_b"]
        schemas := fun catalog => turning (if catalog = "a" then ["b_c", "x"] else ["c"])
        tables := fun _ _ => turning ["d", "e"]
        columns := fun _ _ _ n => (.ok [⟨"id", "integer"⟩], n + 1)
        together := none
        rows := fun _ n => (.ok [], n) }
    let second : Source Unit :=
      { catalogs := fun _ => (.ok ["a_b", "a", "a_b"], ())
        schemas := fun catalog _ => (.ok (if catalog = "a" then ["x", "b_c"] else ["c", "c"]), ())
        tables := fun _ _ _ => (.ok ["e", "d", "e"], ())
        columns := fun _ _ _ _ => (.ok [⟨"id", "integer"⟩], ())
        together := none
        rows := fun _ _ => (.ok [], ()) }
    let w : Walker Nat := ⟨first, ⟨false, false⟩⟩
    let v : Walker Unit := ⟨second, ⟨false, false⟩⟩
    let s := Session.start 1 Store.empty
    let t := Session.start () Store.empty
    let narrow : Settings := { Settings.standard with excludeCatalogs := ["a_b"] }
    (w.catalogs s).1 = ["a_b", "a", "a", "a_b"] ∧ (v.catalogs t).1 = ["a_b", "a", "a_b"] ∧
      AnswersAlike (fun _ w => assemble w .standard) w s v t ∧
      AnswersAlike (fun _ w => assemble w narrow) w s v t ∧
      (assemble w .standard s).1 = .error ⟨"a_b_c_d", "a.b_c.d", "a_b.c.d"⟩ ∧
      (assemble v .standard t).1 = .error ⟨"a_b_c_d", "a.b_c.d", "a_b.c.d"⟩ ∧
      (assemble w narrow s).1.map (fun schema => schema.queryFields.map RootField.name) =
        .ok ["a_b_c_d", "a_b_c_e", "a_x_d", "a_x_e"] ∧
      (assemble v narrow t).1 = (assemble w narrow s).1 ∧
      (assemble v narrow t).1.map document = (assemble w narrow s).1.map document := by
  intro turning first second w v s t narrow
  have hturned (names : List String) (n : Nat) (name : String) :
      name ∈ (if n % 2 = 0 then names else names.reverse ++ names).map w.spell ↔
        name ∈ names.map w.spell := by
    split <;> simp
  have halike (l : Lookup) (s : Session Nat) (t : Session Unit) :
      (w.list l s).1.Alike (v.list l t).1 := by
    rw [(list_of_not_loads (not_loads_of_not_useCache rfl l s.store)).value,
      (list_of_not_loads (not_loads_of_not_useCache rfl l t.store)).value]
    cases l with
    | catalogs =>
      intro name
      rw [hturned]
      change name ∈ ["a", "a_b"] ↔ name ∈ ["a_b", "a", "a_b"]
      grind
    | schemas catalog =>
      intro name
      rw [hturned]
      by_cases hcatalog : Name.restore catalog = "a"
      · simp only [if_pos hcatalog]
        change name ∈ ["b_c", "x"] ↔ name ∈ ["x", "b_c"]
        grind
      · simp only [if_neg hcatalog]
        change name ∈ ["c"] ↔ name ∈ ["c", "c"]
        grind
    | tables catalog schema =>
      intro name
      rw [hturned]
      change name ∈ ["d", "e"] ↔ name ∈ ["e", "d", "e"]
      grind
    | columns catalog schema table => exact rfl
  have hstandard : AnswersAlike (fun _ w => assemble w .standard) w s v t :=
    fun _ hway => hway.finds.resembles halike t
  have hnarrow : AnswersAlike (fun _ w => assemble w narrow) w s v t :=
    fun _ hway => hway.finds.resembles halike t
  have hclash : (assemble w .standard s).1 = .error ⟨"a_b_c_d", "a.b_c.d", "a_b.c.d"⟩ := by
    decide +kernel
  obtain ⟨hsame, -⟩ := assemble_of_answersAlike .standard w s v t hstandard
  obtain ⟨hschema, hdocument⟩ := assemble_of_answersAlike narrow w s v t hnarrow
  exact ⟨by decide +kernel, by decide +kernel, hstandard, hnarrow, hclash, hsame.trans hclash,
    by decide +kernel, hschema, hdocument⟩

end CatalogGraph.Schema
