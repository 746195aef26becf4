import CatalogGraph.Joins.Candidate
import CatalogGraph.Proofs.Dictionary

/-!
# The order of candidates

Columns are compared name by name and then by type, candidates by their left columns, then by their
right columns, then by the reason. Both orders are strict and total. The sorted candidates are the
given ones, each once and ascending, so they depend on the set of the candidates only.
-/

namespace CatalogGraph

/-! ## Columns -/

namespace Column

/-- The order of columns, field by field. -/
def Precedes (a b : Column) : Prop :=
  a.catalog < b.catalog ∨ a.catalog = b.catalog ∧ (a.schema < b.schema ∨ a.schema = b.schema ∧
    (a.table < b.table ∨ a.table = b.table ∧ (a.name < b.name ∨ a.name = b.name ∧
      a.nativeType < b.nativeType)))

variable {a b c : Column}

theorem orderKey_lt_iff : a.orderKey < b.orderKey ↔ a.Precedes b := by
  simp [orderKey, Precedes, List.cons_lt_cons_iff]

theorem orderKey_inj : a.orderKey = b.orderKey ↔ a = b := by
  cases a
  cases b
  simp [orderKey]

theorem not_precedes_self (a : Column) : ¬ a.Precedes a := by
  rw [← orderKey_lt_iff]
  exact List.lt_irrefl _

theorem Precedes.trans (h : a.Precedes b) (h' : b.Precedes c) : a.Precedes c := by
  rw [← orderKey_lt_iff] at h h' ⊢
  exact List.lt_trans h h'

theorem precedes_total (h : a ≠ b) : a.Precedes b ∨ b.Precedes a := by
  simp only [← orderKey_lt_iff]
  by_cases hlt : a.orderKey < b.orderKey
  · exact .inl hlt
  · refine .inr (Classical.byContradiction fun hgt => h ?_)
    exact orderKey_inj.1 (List.le_antisymm (List.not_lt.1 hgt) (List.not_lt.1 hlt))

end Column

/-! ## Candidates -/

namespace Joins

theorem append_lt_append_iff {ks ls ms ns : List String} (h : ks.length = ls.length) :
    ks ++ ms < ls ++ ns ↔ ks < ls ∨ ks = ls ∧ ms < ns := by
  induction ks generalizing ls with
  | nil =>
    cases ls with
    | nil => simp
    | cons l ls => cases h
  | cons k ks ih =>
    cases ls with
    | nil => cases h
    | cons l ls =>
      rw [List.cons_append, List.cons_append, List.cons_lt_cons_iff, List.cons_lt_cons_iff,
        ih (Nat.succ.inj h), List.cons.injEq, and_or_left, or_assoc, and_assoc]

theorem Basis.rank_inj {a b : Basis} (h : a.rank = b.rank) : a = b := by
  cases a <;> cases b <;> first | rfl | cases h

namespace Candidate

/-- The order of candidates, field by field. -/
def Precedes (a b : Candidate) : Prop :=
  a.left.Precedes b.left ∨ a.left = b.left ∧ (a.right.Precedes b.right ∨
    a.right = b.right ∧ a.basis.rank < b.basis.rank)

variable {a b c : Candidate} {cs ds : List Candidate}

theorem before_iff : a.before b = true ↔ a.Precedes b := by
  have hlength : a.left.orderKey.length = b.left.orderKey.length := rfl
  have happend : a.left.orderKey ++ a.right.orderKey = b.left.orderKey ++ b.right.orderKey ↔
      a.left.orderKey = b.left.orderKey ∧ a.right.orderKey = b.right.orderKey :=
    ⟨fun h => List.append_inj h hlength, fun h => by rw [h.1, h.2]⟩
  unfold before Precedes orderKey
  simp only [Bool.or_eq_true, Bool.and_eq_true, decide_eq_true_eq, beq_iff_eq]
  rw [append_lt_append_iff hlength, happend]
  simp only [Column.orderKey_lt_iff, Column.orderKey_inj, or_assoc, and_assoc, and_or_left]

theorem not_precedes_self (a : Candidate) : ¬ a.Precedes a := by
  rintro (h | ⟨-, h | ⟨-, h⟩⟩)
  · exact Column.not_precedes_self _ h
  · exact Column.not_precedes_self _ h
  · exact Nat.lt_irrefl _ h

theorem Precedes.trans (h : a.Precedes b) (h' : b.Precedes c) : a.Precedes c := by
  rcases h with h | ⟨hleft, h⟩
  · rcases h' with h' | ⟨hleft', -⟩
    · exact .inl (h.trans h')
    · exact .inl (hleft' ▸ h)
  · rcases h' with h' | ⟨hleft', h'⟩
    · exact .inl (hleft ▸ h')
    · refine .inr ⟨hleft.trans hleft', ?_⟩
      rcases h with h | ⟨hright, h⟩
      · rcases h' with h' | ⟨hright', -⟩
        · exact .inl (h.trans h')
        · exact .inl (hright' ▸ h)
      · rcases h' with h' | ⟨hright', h'⟩
        · exact .inl (hright ▸ h')
        · exact .inr ⟨hright.trans hright', Nat.lt_trans h h'⟩

theorem precedes_total (h : a ≠ b) : a.Precedes b ∨ b.Precedes a := by
  by_cases hleft : a.left = b.left
  · by_cases hright : a.right = b.right
    · have hrank : a.basis.rank ≠ b.basis.rank := by
        intro hrank
        have heq : (⟨a.left, a.right, a.basis⟩ : Candidate) = ⟨b.left, b.right, b.basis⟩ := by
          rw [hleft, hright, Basis.rank_inj hrank]
        exact h heq
      rcases Nat.lt_or_gt_of_ne hrank with hlt | hgt
      · exact .inl (.inr ⟨hleft, .inr ⟨hright, hlt⟩⟩)
      · exact .inr (.inr ⟨hleft.symm, .inr ⟨hright.symm, hgt⟩⟩)
    · rcases Column.precedes_total hright with hlt | hgt
      · exact .inl (.inr ⟨hleft, .inl hlt⟩)
      · exact .inr (.inr ⟨hleft.symm, .inl hgt⟩)
  · rcases Column.precedes_total hleft with hlt | hgt
    · exact .inl (.inl hlt)
    · exact .inr (.inl hgt)

/-! ## Sorted candidates -/

instance : DecidableRel Precedes := fun _ _ => decidable_of_iff _ before_iff

theorem insert_eq (c : Candidate) (cs : List Candidate) :
    insert c cs = Sorted.insert Precedes c cs := by
  induction cs with
  | nil => rfl
  | cons head rest ih => simp only [insert, Sorted.insert, before_iff, ih]

theorem sort_eq (cs : List Candidate) : sort cs = cs.foldr (Sorted.insert Precedes) [] :=
  congrArg (fun f => cs.foldr f []) (funext fun c => funext (insert_eq c))

theorem mem_sort : a ∈ sort cs ↔ a ∈ cs := by
  rw [sort_eq, Sorted.mem_foldr_insert]

theorem pairwise_sort (cs : List Candidate) : (sort cs).Pairwise Precedes := by
  rw [sort_eq]
  refine Sorted.pairwise_foldr_insert (r := Precedes) (fun _ _ _ => Precedes.trans) ?_ cs
  exact fun _ _ => precedes_total

/-- Ascending candidates are determined by their set. -/
theorem eq_of_pairwise (hcs : cs.Pairwise Precedes) (hds : ds.Pairwise Precedes)
    (h : ∀ c, c ∈ cs ↔ c ∈ ds) : cs = ds :=
  Sorted.eq_of_pairwise not_precedes_self (fun _ _ _ => Precedes.trans) hcs hds h

end Candidate

end Joins

end CatalogGraph
