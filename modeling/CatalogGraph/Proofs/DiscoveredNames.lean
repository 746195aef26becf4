import CatalogGraph.Discovery.Fixture
import CatalogGraph.Proofs.SharedModes

/-!
# Discovered names lead back

A name that was handed out is passed back to ask for what is below it. The walker restores every
name that is passed to it, whether it rewrites names or not. So a rewritten name leads back to the
name that the source gave, and a raw one does where restoring leaves it alone (`leads_back`); a raw
name with the text of a token in it leads to another object (`raw_token_misleads`).
-/

namespace CatalogGraph.Discovery

open Cache

variable {σ : Type}

/-- The names that a request is made with. -/
def Request.names : Request → List String
  | .catalogs => []
  | .schemas catalog => [catalog]
  | .tables catalog schema => [catalog, schema]
  | .columns catalog schema table => [catalog, schema, table]
  | .rows _ => []

theorem names_request (l : Lookup) : l.request.names = l.names.map Name.restore := by
  cases l <;> rfl

/-- What the walker asks for where a name is passed back as it was spelled. -/
theorem restore_spell (w : Walker σ) {n : String} (hn : ¬ Name.isValid n = true) :
    Name.restore (w.spell n) = if w.options.replaceInvalid then n else Name.restore n := by
  unfold Walker.spell
  split
  · exact Name.restore_sanitize hn
  · rfl

/-- A walker that does not read its cache hands out the names of the source as it spells them. -/
theorem shown_of_not_useCache {w : Walker σ} (hcache : w.options.useCache = false) (l : Lookup)
    (s : Session σ) :
    (w.list l s).1.shown = (l.given w.source s.source).map w.spell := by
  rw [(list_of_not_loads (not_loads_of_not_useCache hcache l s.store)).value]
  exact shown_reply w l s.source

/-- A name outside the grammar that the source gave, handed out by a walker that does not read its
cache and passed back at any place of a lookup: the source is asked once, for this very name exactly
where the walker rewrites names or restoring leaves the name alone. -/
theorem leads_back {w : Walker σ} (hcache : w.options.useCache = false) {d l : Lookup}
    {s t : Session σ} {i j : Nat} {n name : String}
    (hgiven : (d.given w.source s.source)[i]? = some n) (hn : ¬ Name.isValid n = true)
    (hshown : (w.list d s).1.shown[i]? = some name) (hback : l.names[j]? = some name) :
    (w.list l t).2.requests = t.requests ++ [l.request] ∧
      l.request.names[j]? = some (if w.options.replaceInvalid then n else Name.restore n) ∧
      (l.request.names[j]? = some n ↔ w.options.replaceInvalid = true ∨ Name.restore n = n) := by
  have hname : name = w.spell n := by
    rw [shown_of_not_useCache hcache, List.getElem?_map, hgiven] at hshown
    exact (Option.some.inj hshown).symm
  have hasked : l.request.names[j]? =
      some (if w.options.replaceInvalid then n else Name.restore n) := by
    rw [names_request, List.getElem?_map, hback, hname, Option.map_some, restore_spell w hn]
  refine ⟨(list_of_not_loads (not_loads_of_not_useCache hcache l t.store)).requests, hasked, ?_⟩
  rw [hasked, Option.some_inj]
  cases w.options.replaceInvalid <;> simp

namespace Fixture

/-- A name with the text of a token is rewritten and leads back. -/
theorem leads_back_token :
    let f : Fixture := ⟨[("a-A", [("s", [])]), ("a-_U0041_", [("z", [])])], [], []⟩
    let w := walker ⟨true, false⟩
    let s := Session.start f Store.empty
    let l : Lookup := .schemas "a_U002D__U005F_U0041_"
    w.options.useCache = false ∧
      (Lookup.catalogs.given w.source s.source)[1]? = some "a-_U0041_" ∧
      ¬ Name.isValid "a-_U0041_" = true ∧
      (w.list .catalogs s).1.shown[1]? = some "a_U002D__U005F_U0041_" ∧
      l.names[0]? = some "a_U002D__U005F_U0041_" ∧
      (w.list l s).2.requests = [.schemas "a-_U0041_"] := by
  intro f w s l
  have hgiven : (Lookup.catalogs.given w.source s.source)[1]? = some "a-_U0041_" := by
    decide +kernel
  have hn : ¬ Name.isValid "a-_U0041_" = true := by decide +kernel
  have hshown : (w.list .catalogs s).1.shown[1]? = some "a_U002D__U005F_U0041_" := by
    decide +kernel
  have hback : l.names[0]? = some "a_U002D__U005F_U0041_" := rfl
  obtain ⟨hrequests, hasked, -⟩ := leads_back (t := s) rfl hgiven hn hshown hback
  refine ⟨rfl, hgiven, hn, hshown, hback, ?_⟩
  have hraw : Name.restore "a_U002D__U005F_U0041_" = "a-_U0041_" := Option.some.inj hasked
  rw [hrequests, ← hraw]
  rfl

/-- Without rewriting, the same name is handed out as it is and leads to another catalog. -/
theorem raw_token_misleads :
    let f : Fixture := ⟨[("a-A", [("s", [])]), ("a-_U0041_", [("z", [])])], [], []⟩
    let w := walker ⟨false, false⟩
    let s := Session.start f Store.empty
    ¬ Name.isValid "a-_U0041_" = true ∧ (w.catalogs s).1 = ["a-A", "a-_U0041_"] ∧
      (w.schemas "a-_U0041_" s).2.requests = [.schemas "a-A"] ∧
      (w.schemas "a-_U0041_" s).1 = ["s"] := by
  decide +kernel

end Fixture

end CatalogGraph.Discovery
