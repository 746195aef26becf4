/-!
# Sorted lists

Lists that are sorted by a strict order: inserting members one by one, each where it is not yet in
the list, gives the sorted list of these members, and a sorted list is determined by its members.
-/

namespace CatalogGraph.Sorted

variable {β : Type} {r : β → β → Prop} {b c : β} {bs cs : List β}

/-! ## Members -/

theorem nodup_of_pairwise (hirrefl : ∀ b, ¬ r b b) (hb : bs.Pairwise r) : bs.Nodup := by
  refine hb.imp ?_
  rintro a _ hlt rfl
  exact hirrefl a hlt

theorem eq_of_pairwise (hirrefl : ∀ b, ¬ r b b) (htrans : ∀ a b c, r a b → r b c → r a c)
    (hb : bs.Pairwise r) (hc : cs.Pairwise r) (h : ∀ b, b ∈ bs ↔ b ∈ cs) : bs = cs := by
  have hperm : bs.Perm cs := (List.perm_ext_iff_of_nodup (nodup_of_pairwise hirrefl hb)
    (nodup_of_pairwise hirrefl hc)).2 h
  refine hperm.eq_of_pairwise ?_ hb hc
  intro a b _ _ hab hba
  exact absurd (htrans _ _ _ hab hba) (hirrefl a)

/-- The last member of a sorted list is the one that comes before no other. -/
theorem getLast?_of_pairwise (hbs : bs.Pairwise r) (hb : b ∈ bs) (hlast : ∀ c ∈ bs, ¬ r b c) :
    bs.getLast? = some b := by
  obtain ⟨front, last, rfl⟩ : ∃ front last, bs = front ++ [last] :=
    ⟨_, _, (List.dropLast_concat_getLast (List.ne_nil_of_mem hb)).symm⟩
  rw [List.getLast?_concat]
  rcases List.mem_append.1 hb with hfront | hend
  · have hlt := (List.pairwise_append.1 hbs).2.2 b hfront last (by simp)
    exact absurd hlt (hlast last (by simp))
  · rw [List.mem_singleton.1 hend]

/-! ## Insertion -/

section Insertion

variable [DecidableEq β] [DecidableRel r]

/-- The list with a member put before the first one that comes after it, where it is not yet in the
list. -/
def insert (r : β → β → Prop) [DecidableRel r] (b : β) : List β → List β
  | [] => [b]
  | c :: rest => if b = c then c :: rest else if r b c then b :: c :: rest else c :: insert r b rest

theorem mem_insert : c ∈ insert r b bs ↔ c = b ∨ c ∈ bs := by
  induction bs with
  | nil => simp [insert]
  | cons head rest ih =>
    unfold insert
    split
    · rename_i heq
      simp [heq]
    · split
      · simp
      · rw [List.mem_cons, ih, List.mem_cons]
        exact or_left_comm

theorem pairwise_insert (htrans : ∀ a b c, r a b → r b c → r a c)
    (htotal : ∀ a b, a ≠ b → r a b ∨ r b a) (b : β) (h : bs.Pairwise r) :
    (insert r b bs).Pairwise r := by
  induction bs with
  | nil => exact List.pairwise_singleton _ _
  | cons head rest ih =>
    obtain ⟨hhead, hrest⟩ := List.pairwise_cons.1 h
    unfold insert
    split
    · exact h
    · rename_i hne
      split
      · rename_i hlt
        refine List.pairwise_cons.2 ⟨?_, h⟩
        intro c hc
        rcases List.mem_cons.1 hc with rfl | hc
        · exact hlt
        · exact htrans _ _ _ hlt (hhead c hc)
      · rename_i hnot
        refine List.pairwise_cons.2 ⟨?_, ih hrest⟩
        intro c hc
        rcases mem_insert.1 hc with rfl | hc
        · exact (htotal _ _ hne).resolve_left hnot
        · exact hhead c hc

theorem mem_foldr_insert : b ∈ bs.foldr (insert r) [] ↔ b ∈ bs := by
  induction bs with
  | nil => simp
  | cons head rest ih => rw [List.foldr_cons, mem_insert, ih, List.mem_cons]

theorem pairwise_foldr_insert (htrans : ∀ a b c, r a b → r b c → r a c)
    (htotal : ∀ a b, a ≠ b → r a b ∨ r b a) (bs : List β) :
    (bs.foldr (insert r) []).Pairwise r := by
  induction bs with
  | nil => exact List.Pairwise.nil
  | cons head rest ih => exact pairwise_insert htrans htotal head ih

end Insertion

end CatalogGraph.Sorted
