import CatalogGraph.Proofs.Dictionary
import CatalogGraph.Schema.Registry

/-!
# Registering many tables

Registering tables one after the other succeeds exactly when their types have different names. The
registry then holds just these tables, in the order of the names of their types. Otherwise the
collision names two of the tables.
-/

namespace CatalogGraph.Schema

/-- A table with its object type. -/
abbrev Entry := TableRef × ObjectType

/-- Two tables, one before the other in the list, have types of one name; the collision tells the
name and both tables. -/
def Clash (entries : List Entry) (c : Collision) : Prop :=
  ∃ first second : Entry, [first, second].Sublist entries ∧ first.2.name = second.2.name ∧
    c = ⟨second.2.name, first.1.qualified, second.1.qualified⟩

namespace Registry

/-- The tables registered one after the other. -/
def registerAll (r : Registry) (entries : List Entry) : Except Collision Registry :=
  entries.foldlM (fun r e => r.register e.1 e.2) r

/-! ## What a registry holds -/

/-- The registry holds exactly the given tables, under the names of their types. -/
structure Holds (r : Registry) (entries : List Entry) : Prop where
  ascending : Dictionary.Ascending r
  perm : r.Perm (entries.map fun e => (e.2.name, e))

variable {r s : Registry} {entries more : List Entry} {c : Collision}

theorem holds_nil : Holds [] [] := ⟨List.Pairwise.nil, List.Perm.nil⟩

theorem Holds.perm_keys (h : Holds r entries) :
    (Dictionary.keys r).Perm (entries.map fun e => e.2.name) := by
  have hkeys := h.perm.map Prod.fst
  rwa [List.map_map] at hkeys

theorem Holds.perm_values (h : Holds r entries) : (Dictionary.values r).Perm entries := by
  have hvalues := h.perm.map Prod.snd
  rw [List.map_map] at hvalues
  simpa [Dictionary.values, Function.comp_def] using hvalues

theorem Holds.nodup_names (h : Holds r entries) : (entries.map fun e => e.2.name).Nodup := by
  refine h.perm_keys.nodup ?_
  exact h.ascending.imp fun hlt => String.ne_of_lt hlt

/-! ## One table -/

theorem register_of_mem (h : Holds r entries) {e : Entry} (hfree : e.2.name ∉ reservedNames)
    {first : Entry} (hmem : first ∈ entries) (hname : first.2.name = e.2.name) :
    ∃ a ∈ entries, a.2.name = e.2.name ∧
      r.register e.1 e.2 = .error ⟨e.2.name, a.1.qualified, e.1.qualified⟩ := by
  have hkey : e.2.name ∈ Dictionary.keys r := by
    rw [h.perm_keys.mem_iff, ← hname]
    exact List.mem_map_of_mem hmem
  obtain ⟨a, ha⟩ := Dictionary.mem_keys_iff.1 hkey
  have hheld := h.perm.mem_iff.1 (Dictionary.mem_of_find? ha)
  obtain ⟨b, hb, heq⟩ := List.mem_map.1 hheld
  obtain ⟨hba, rfl⟩ := Prod.mk.inj heq
  refine ⟨b, hb, hba, ?_⟩
  unfold register
  rw [if_neg (by simpa using hfree), ha]

theorem register_of_not_mem (h : Holds r entries) {e : Entry} (hfree : e.2.name ∉ reservedNames)
    (hnew : ∀ a ∈ entries, a.2.name ≠ e.2.name) :
    ∃ s, r.register e.1 e.2 = .ok s ∧ Holds s (entries ++ [e]) := by
  have hkey : e.2.name ∉ Dictionary.keys r := by
    rw [h.perm_keys.mem_iff, List.mem_map]
    rintro ⟨a, ha, hname⟩
    exact hnew a ha hname
  refine ⟨Dictionary.insert r e.2.name e, ?_, ?_, ?_⟩
  · unfold register
    rw [if_neg (by simpa using hfree), Dictionary.find?_eq_none_iff.2 hkey]
  · exact Dictionary.ascending_insert e h.ascending
  · refine (Dictionary.perm_insert e hkey).trans ?_
    rw [List.map_append]
    exact (h.perm.cons _).trans (List.perm_append_singleton _ _).symm

/-! ## All tables -/

theorem registerAll_append (r : Registry) (entries more : List Entry) :
    registerAll r (entries ++ more) = registerAll r entries >>= fun s => registerAll s more := by
  unfold registerAll
  rw [List.foldlM_append]

theorem registerAll_singleton (r : Registry) (e : Entry) :
    registerAll r [e] = r.register e.1 e.2 := by
  unfold registerAll
  rw [List.foldlM_cons]
  cases r.register e.1 e.2 <;> rfl

/-- Registering further tables either goes through, and the registry holds them too, or ends with
two tables whose types have one name. -/
theorem registerAll_spec (h : Holds r entries) (hfree : ∀ e ∈ more, e.2.name ∉ reservedNames) :
    (∃ s, registerAll r more = .ok s ∧ Holds s (entries ++ more)) ∨
      ∃ c, registerAll r more = .error c ∧ Clash (entries ++ more) c := by
  induction more generalizing r entries with
  | nil => exact .inl ⟨r, rfl, by rwa [List.append_nil]⟩
  | cons e rest ih =>
    have hsplit : entries ++ e :: rest = (entries ++ [e]) ++ rest := by simp
    have hrest : ∀ a ∈ rest, a.2.name ∉ reservedNames :=
      fun a ha => hfree a (List.mem_cons_of_mem _ ha)
    have hcons : registerAll r (e :: rest) = r.register e.1 e.2 >>= fun s => registerAll s rest :=
      List.foldlM_cons
    rw [hcons, hsplit]
    -- The registry holds the tables so far, so the next one is refused by one of them or added.
    by_cases hold : ∃ a ∈ entries, a.2.name = e.2.name
    · obtain ⟨a, ha, hname⟩ := hold
      obtain ⟨b, hb, hbname, hreg⟩ := register_of_mem h (hfree e (by simp)) ha hname
      rw [hreg]
      refine .inr ⟨_, rfl, b, e, ?_, hbname, rfl⟩
      have hpair : [b, e].Sublist (entries ++ [e]) :=
        (List.singleton_sublist.2 hb).append (List.Sublist.refl [e])
      exact hpair.trans (List.sublist_append_left _ _)
    · simp only [not_exists, not_and] at hold
      obtain ⟨s, hreg, hs⟩ := register_of_not_mem h (hfree e (by simp)) hold
      rw [hreg]
      exact ih hs hrest

theorem not_nodup_of_clash (h : Clash entries c) : ¬ (entries.map fun e => e.2.name).Nodup := by
  obtain ⟨first, second, hsub, hname, -⟩ := h
  intro hnodup
  have hpair := hnodup.sublist (hsub.map fun e => e.2.name)
  simp [hname] at hpair

/-- Tables that are registered from the start are all held, under different names. -/
theorem holds_of_registerAll (hfree : ∀ e ∈ entries, e.2.name ∉ reservedNames)
    (h : registerAll [] entries = .ok r) : Holds r entries := by
  rcases registerAll_spec holds_nil hfree with ⟨s, hs, hholds⟩ | ⟨c, hc, -⟩
  · rw [h] at hs
    cases hs
    exact hholds
  · rw [h] at hc
    cases hc

theorem clash_of_registerAll (hfree : ∀ e ∈ entries, e.2.name ∉ reservedNames)
    (h : registerAll [] entries = .error c) : Clash entries c := by
  rcases registerAll_spec holds_nil hfree with ⟨s, hs, -⟩ | ⟨d, hd, hclash⟩
  · rw [h] at hs
    cases hs
  · rw [h] at hd
    cases hd
    exact hclash

theorem registerAll_error_iff (hfree : ∀ e ∈ entries, e.2.name ∉ reservedNames) :
    (∃ c, registerAll [] entries = .error c) ↔ ¬ (entries.map fun e => e.2.name).Nodup := by
  constructor
  · rintro ⟨c, hc⟩
    exact not_nodup_of_clash (clash_of_registerAll hfree hc)
  · intro hnodup
    cases hr : registerAll [] entries with
    | ok r => exact absurd (holds_of_registerAll hfree hr).nodup_names hnodup
    | error c => exact ⟨c, rfl⟩

/-! ## The schema of a registry -/

theorem perm_place (type : ObjectType) (types : List ObjectType) :
    (place type types).Perm (type :: types) := by
  induction types with
  | nil => exact List.Perm.refl _
  | cons other rest ih =>
    unfold place
    split
    · exact List.Perm.refl _
    · exact (ih.cons _).trans (List.Perm.swap _ _ _)

theorem pairwise_place {type : ObjectType} {types : List ObjectType}
    (h : types.Pairwise fun a b => a.name < b.name) (hnew : ∀ a ∈ types, a.name ≠ type.name) :
    (place type types).Pairwise fun a b => a.name < b.name := by
  induction types with
  | nil => exact List.pairwise_singleton _ _
  | cons other rest ih =>
    obtain ⟨hhead, hrest⟩ := List.pairwise_cons.1 h
    unfold place
    split
    · rename_i hlt
      refine List.pairwise_cons.2 ⟨?_, h⟩
      intro b hb
      rcases List.mem_cons.1 hb with rfl | hb
      · exact hlt
      · exact String.lt_trans hlt (hhead b hb)
    · rename_i hnlt
      have hgreater : other.name < type.name :=
        Dictionary.lt_of_not_lt_of_ne hnlt (hnew other (by simp)).symm
      refine List.pairwise_cons.2 ⟨?_, ih hrest fun a ha => hnew a (List.mem_cons_of_mem _ ha)⟩
      intro b hb
      rcases List.mem_cons.1 ((perm_place type rest).mem_iff.1 hb) with rfl | hb
      · exact hgreater
      · exact hhead b hb

theorem Holds.mem_types_iff (h : Holds r entries) {type : ObjectType} :
    type ∈ r.types ↔ ∃ e ∈ entries, e.2 = type := by
  unfold types
  simp only [List.mem_map, h.perm_values.mem_iff]

theorem Holds.pairwise_entries (h : Holds r entries) :
    (Dictionary.values r).Pairwise fun a b => a.2.name < b.2.name := by
  have hkeyed : ∀ entry ∈ r, entry.1 = entry.2.2.name := by
    intro entry hentry
    obtain ⟨e, -, rfl⟩ := List.mem_map.1 (h.perm.mem_iff.1 hentry)
    rfl
  have hascending := h.ascending
  unfold Dictionary.Ascending Dictionary.keys at hascending
  unfold Dictionary.values
  rw [List.pairwise_map] at hascending ⊢
  refine hascending.imp_of_mem ?_
  intro a b ha hb hlt
  rwa [hkeyed a ha, hkeyed b hb] at hlt

/-- A field of one of the types holds map entries. -/
def UsesKeyValue (entries : List Entry) : Prop :=
  ∃ e ∈ entries, ∃ field ∈ e.2.fields, field.type.usesKeyValue = true

theorem Holds.needsKeyValue_iff (h : Holds r entries) :
    r.needsKeyValue = true ↔ UsesKeyValue entries := by
  unfold needsKeyValue UsesKeyValue
  simp only [List.any_eq_true, h.mem_types_iff]
  constructor
  · rintro ⟨_, ⟨e, he, rfl⟩, hfield⟩
    exact ⟨e, he, hfield⟩
  · rintro ⟨e, he, hfield⟩
    exact ⟨e.2, ⟨e, he, rfl⟩, hfield⟩

/-- The object types of the schema are in the order of their names; they are the types of the
tables, and the type of map entries where it is used. -/
theorem Holds.objectTypes (h : Holds r entries) (hfree : ∀ e ∈ entries, e.2.name ∉ reservedNames)
    (visible : List String) :
    (r.schema visible).objectTypes.Pairwise (fun a b => a.name < b.name) ∧
      ∀ type, type ∈ (r.schema visible).objectTypes ↔
        (∃ e ∈ entries, e.2 = type) ∨ type = keyValueType ∧ UsesKeyValue entries := by
  have hsorted : r.types.Pairwise fun a b => a.name < b.name := by
    unfold types
    rw [List.pairwise_map]
    exact h.pairwise_entries
  unfold schema
  by_cases huses : r.needsKeyValue = true
  · simp only [huses, if_true]
    refine ⟨pairwise_place hsorted ?_, ?_⟩
    · intro type htype hname
      obtain ⟨e, he, rfl⟩ := h.mem_types_iff.1 htype
      refine hfree e he ?_
      rw [hname]
      decide
    · intro type
      rw [(perm_place _ _).mem_iff, List.mem_cons, h.mem_types_iff, or_comm]
      simp only [h.needsKeyValue_iff.1 huses, and_true]
  · simp only [huses, Bool.false_eq_true, if_false]
    refine ⟨hsorted, ?_⟩
    intro type
    rw [h.needsKeyValue_iff] at huses
    simp only [h.mem_types_iff, huses, and_false, or_false]

end Registry

end CatalogGraph.Schema
