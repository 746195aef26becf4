import CatalogGraph.Discovery.Fixture
import CatalogGraph.Proofs.Dictionary
import CatalogGraph.Proofs.Outcomes

/-!
# Trees in key order

The tree of a fixture is made of dictionaries within dictionaries. All of them are in key order
(`Fixture.Ordered`), whether the fixture is built table by table or read from a JSON text.
-/

namespace CatalogGraph

namespace Dictionary

variable {α : Type} {P : α → Prop} {d : Dictionary α} {key : String} {value : α}

/-- Keys in ascending order, and values with a property. -/
structure AscendingOf (P : α → Prop) (d : Dictionary α) : Prop where
  ascending : Ascending d
  values : ∀ entry ∈ d, P entry.2

theorem ascending_nil : Ascending ([] : Dictionary α) := List.Pairwise.nil

theorem ascendingOf_nil (P : α → Prop) : AscendingOf P ([] : Dictionary α) :=
  ⟨ascending_nil, fun _ h => nomatch h⟩

theorem AscendingOf.insert (h : AscendingOf P d) (key : String) (hvalue : P value) :
    AscendingOf P (d.insert key value) where
  ascending := ascending_insert value h.ascending
  values := by
    intro entry hentry
    rcases mem_insert hentry with rfl | hentry
    · exact hvalue
    · exact h.values entry hentry

/-- A value is changed, or one is made from a new value. -/
theorem AscendingOf.alter_getD (h : AscendingOf P d) (key : String) {new : α} (hnew : P new)
    {g : α → α} (hg : ∀ v, P v → P (g v)) :
    AscendingOf P (d.alter key fun found => g (found.getD new)) := by
  apply h.insert
  apply hg
  cases hfind : d.find? key with
  | none => exact hnew
  | some v => exact h.values (key, v) (mem_of_find? hfind)

theorem ascendingOf_ofList {entries : List (String × α)} (h : ∀ entry ∈ entries, P entry.2) :
    AscendingOf P (ofList entries) where
  ascending := ascending_ofList entries
  values entry hentry := h entry (mem_of_mem_ofList hentry)

end Dictionary

/-- An object is read as a dictionary in key order, whatever order its members have. -/
theorem Json.Decoder.ascendingOf_dictionary {α : Type} {P : α → Prop} {inner : Json.Decoder α}
    (hinner : ∀ j v, inner j = .ok v → P v) {j : Json} {d : Dictionary α}
    (h : Json.Decoder.dictionary inner j = .ok d) : Dictionary.AscendingOf P d := by
  cases j with
  | object members =>
    obtain ⟨entries, hentries, hd⟩ := ok_bind_iff.1 h
    obtain rfl := Except.ok.inj hd
    apply Dictionary.ascendingOf_ofList
    intro entry hentry
    obtain ⟨member, -, hmember⟩ := exists_of_mem_mapM hentries hentry
    obtain ⟨v, hv, heq⟩ := ok_bind_iff.1 hmember
    obtain rfl := Except.ok.inj heq
    exact hinner member.2 v hv
  | _ => cases h

namespace Discovery.Fixture

open Json

/-- All dictionaries of the tree are in key order. -/
def Ordered (f : Fixture) : Prop :=
  Dictionary.AscendingOf (Dictionary.AscendingOf Dictionary.Ascending) f.tree

theorem ordered_empty : empty.Ordered := Dictionary.ascendingOf_nil _

theorem Ordered.withTable {f : Fixture} (h : f.Ordered) (catalog schema table : String)
    (columns : List ColumnDescription) : (f.withTable catalog schema table columns).Ordered := by
  have htables (tables : TableTree) (htables : Dictionary.Ascending tables) :
      Dictionary.Ascending (Dictionary.insert tables table columns) :=
    Dictionary.ascending_insert columns htables
  have hschemas (schemas : SchemaTree)
      (hschemas : Dictionary.AscendingOf Dictionary.Ascending schemas) :=
    hschemas.alter_getD schema Dictionary.ascending_nil htables
  exact h.alter_getD catalog (Dictionary.ascendingOf_nil _) hschemas

theorem Ordered.withSchema {f : Fixture} (h : f.Ordered) (catalog schema : String) :
    (f.withSchema catalog schema).Ordered := by
  have hschemas (schemas : SchemaTree)
      (hschemas : Dictionary.AscendingOf Dictionary.Ascending schemas) :=
    hschemas.alter_getD (g := id) schema Dictionary.ascending_nil fun _ htables => htables
  exact h.alter_getD catalog (Dictionary.ascendingOf_nil _) hschemas

theorem Ordered.withFailing {f : Fixture} (h : f.Ordered) (catalog : String) :
    (f.withFailing catalog).Ordered :=
  h.alter_getD (g := id) catalog (Dictionary.ascendingOf_nil _) fun _ hschemas => hschemas

theorem Ordered.withRows {f : Fixture} (h : f.Ordered) (rows : List Row) :
    (f.withRows rows).Ordered := h

theorem ordered_of_ofText? {s : String} {f : Fixture} (h : ofText? s = some f) : f.Ordered := by
  unfold ofText? at h
  split at h
  · cases h
  · rename_i j _
    split at h
    · rename_i tree htree
      obtain rfl := Option.some.inj h
      apply Decoder.ascendingOf_dictionary _ htree
      intro _ schemas hschemas
      apply Decoder.ascendingOf_dictionary _ hschemas
      intro _ tables htables
      have htrue : Dictionary.AscendingOf (fun _ => True) tables :=
        Decoder.ascendingOf_dictionary (fun _ _ _ => trivial) htables
      exact htrue.ascending
    · cases h

end Discovery.Fixture

end CatalogGraph
