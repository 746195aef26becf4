import CatalogGraph.Proofs.AssemblyTrails

/-!
# Assembling again

An assembly is decided by the lists that it looks up. A walker that reads its cache leaves all of
them there, so every later assembly over this cache goes along the same trail (`assemble_again`).
This needs neither the same walker nor a source that still gives the same answers.
-/

namespace CatalogGraph.Schema

open Cache Discovery

variable {σ τ : Type}

/-- After an assembly with a walker that reads its cache, an assembly over the cache that it left
gives the same schema, or the same collision. It asks nothing and leaves the cache as it is. -/
theorem assemble_again (w : Walker σ) (settings : Settings) (s : Session σ)
    (hcache : w.options.useCache = true) (v : Walker τ) (t : Session τ)
    (hread : v.options.useCache = true) (hstore : t.store = (assemble w settings s).2.store) :
    (assemble v settings t).1 = (assemble w settings s).1 ∧
      (assemble v settings t).2.requests = t.requests ∧
      (assemble v settings t).2.source = t.source ∧
      (assemble v settings t).2.store = t.store := by
  obtain ⟨trail, hway, -⟩ := leaves_assemble settings σ w s
  obtain ⟨hresult, hlike⟩ := hway.again hcache hread hstore
  exact ⟨hresult, hlike.requests, hlike.source, hlike.store⟩

/-- A source that tells tables to the third request only, and columns to every other one: the second
assembly still has the one table that was found. A collision is told again over a source that has
lost its catalogs. -/
theorem assemble_again_changed :
    let answer (n : Nat) (names : List String) : Answer (List String) × Nat := (.ok names, n + 1)
    let source : Source Nat :=
      { catalogs := fun n => answer n ["c"]
        schemas := fun _ n => answer n ["s"]
        tables := fun _ _ n =>
          if n = 2 then answer n ["u", "t"] else (.error (.unavailable "late"), n + 1)
        columns := fun _ _ _ n =>
          if n % 2 = 0 then (.ok [⟨"x", "bigint"⟩], n + 1) else (.error (.notFound "odd"), n + 1)
        together := none
        rows := fun _ n => (.ok [], n) }
    let w : Walker Nat := ⟨source, ⟨false, true⟩⟩
    let first := assemble w .standard (Session.start 0 Store.empty)
    let column : List ColumnDescription := [⟨"x", "bigint"⟩]
    let f : Fixture :=
      ⟨[("a", [("b_c", [("d", column)])]), ("a_b", [("c", [("d", column)])])], [], []⟩
    let v : Walker Fixture := ⟨Fixture.source, ⟨false, true⟩⟩
    let clash := assemble v .standard (Session.start f Store.empty)
    let t : Session Fixture := Session.start Fixture.empty clash.2.store
    w.options.useCache = true ∧ first.2.requests.length = 5 ∧
      first.1.map (fun schema => schema.queryFields.map RootField.name) = .ok ["c_s_u"] ∧
      (assemble w .standard first.2).1 = first.1 ∧
      (assemble w .standard first.2).2.requests = first.2.requests ∧
      (assemble w .standard first.2).2.store = first.2.store ∧
      v.options.useCache = true ∧ clash.1 = .error ⟨"a_b_c_d", "a.b_c.d", "a_b.c.d"⟩ ∧
      (assemble v .standard t).1 = .error ⟨"a_b_c_d", "a.b_c.d", "a_b.c.d"⟩ ∧
      (assemble v .standard t).2.requests = [] := by
  intro answer source w first column f v clash t
  have hcount : first.2.requests.length = 5 := by decide +kernel
  have hnames : first.1.map (fun schema => schema.queryFields.map RootField.name) =
      .ok ["c_s_u"] := by decide +kernel
  have hclash : clash.1 = .error ⟨"a_b_c_d", "a.b_c.d", "a_b.c.d"⟩ := by decide +kernel
  obtain ⟨hsame, hrequests, -, hstore⟩ := assemble_again w .standard _ rfl w first.2 rfl rfl
  obtain ⟨hagain, hnothing, -, -⟩ := assemble_again v .standard _ rfl v t rfl rfl
  exact ⟨rfl, hcount, hnames, hsame, hrequests, hstore, rfl, hclash, hagain.trans hclash, hnothing⟩

end CatalogGraph.Schema
