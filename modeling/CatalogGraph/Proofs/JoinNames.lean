import CatalogGraph.Joins.Names
import CatalogGraph.Proofs.SmallLetters

/-!
# Matching names

Names that are equal without regard to ASCII case have one normal form, so two names match exactly
when their normal forms are equal: the stems before a final `_id` never decide. Matching therefore
does not depend on the order of the two names.
-/

namespace CatalogGraph.Joins

open Text

variable {l r : String} {basis : Basis}

/-! ## Normal forms -/

/-- The characters of a normal form. -/
def normalChars (cs : List Char) : List Char := (cs.filter (· ≠ '_')).flatMap lowerChar

theorem normalChars_of_map_toLower_eq {cs ds : List Char}
    (h : cs.map Char.toLower = ds.map Char.toLower) : normalChars cs = normalChars ds := by
  induction cs generalizing ds with
  | nil =>
    rw [List.map_nil, eq_comm, List.map_eq_nil_iff] at h
    rw [h]
  | cons c rest ih =>
    cases ds with
    | nil => cases h
    | cons d others =>
      obtain ⟨hhead, hrest⟩ := List.cons.inj h
      have hmark : c = '_' ↔ d = '_' := by
        have hbetween : ('_' : Char).toNat < 65 ∨
            90 < ('_' : Char).toNat ∧ ('_' : Char).toNat < 97 := by decide
        rw [← toLower_eq_mark_iff hbetween, hhead, toLower_eq_mark_iff hbetween]
      have hnormal := ih hrest
      unfold normalChars at hnormal ⊢
      by_cases hc : c = '_'
      · rw [List.filter_cons_of_neg (by simpa using hc),
          List.filter_cons_of_neg (by simpa using hmark.1 hc), hnormal]
      · have hd : d ≠ '_' := fun hd => hc (hmark.2 hd)
        rw [List.filter_cons_of_pos (by simpa using hc),
          List.filter_cons_of_pos (by simpa using hd), List.flatMap_cons, List.flatMap_cons,
          lowerChar_of_toLower_eq hhead, hnormal]

/-- Names that are equal without regard to ASCII case have one normal form. -/
theorem normalizeColumn_of_same (h : sameIgnoringAsciiCase l r = true) :
    normalizeColumn l = normalizeColumn r :=
  congrArg String.ofList (normalChars_of_map_toLower_eq (sameIgnoringAsciiCase_iff.1 h))

/-! ## Stems -/

/-- A name with a stem is the stem, an underscore, and `id` in any case. -/
theorem map_toLower_of_idStem? {name stem : String} (h : idStem? name = some stem) :
    name.toList.map Char.toLower = stem.toList.map Char.toLower ++ ['_', 'i', 'd'] := by
  unfold idStem? at h
  split at h
  · rename_i d i u c rest hreverse
    split at h
    · rename_i hletters
      obtain ⟨hd, hi, rfl⟩ := hletters
      cases h
      have hname : name.toList = (d :: i :: '_' :: c :: rest).reverse := by
        rw [← hreverse, List.reverse_reverse]
      have hmark : ('_' : Char).toLower = '_' := rfl
      rw [hname, String.toList_ofList]
      simp [hd, hi, hmark]
    · cases h
  · cases h

theorem same_of_idStem? {p q : String} (hl : idStem? l = some p) (hr : idStem? r = some q)
    (h : sameIgnoringAsciiCase p q = true) : sameIgnoringAsciiCase l r = true := by
  rw [sameIgnoringAsciiCase_iff] at h ⊢
  rw [map_toLower_of_idStem? hl, map_toLower_of_idStem? hr, h]

/-! ## Matching -/

/-- Two names match when they have one normal form; ASCII case tells the reasons apart. -/
theorem joinability_eq_some_iff :
    joinability l r = some basis ↔ normalizeColumn l = normalizeColumn r ∧
      basis = if sameIgnoringAsciiCase l r then .exactName else .normalizedName := by
  unfold joinability
  by_cases hsame : sameIgnoringAsciiCase l r = true
  · simp only [hsame, if_true, normalizeColumn_of_same hsame, true_and, Option.some.injEq]
    exact eq_comm
  · rw [if_neg hsame, if_neg hsame]
    by_cases hnormal : normalizeColumn l = normalizeColumn r
    · simp only [hnormal, if_true, true_and, Option.some.injEq]
      exact eq_comm
    · simp only [hnormal, if_false, false_and, iff_false]
      -- Equal stems would have made the names equal.
      split
      · rename_i p q hp hq
        rw [if_neg fun hstems => hsame (same_of_idStem? hp hq hstems)]
        rintro ⟨⟩
      · rintro ⟨⟩

theorem normalizeColumn_of_joinability (h : joinability l r = some basis) :
    normalizeColumn l = normalizeColumn r := (joinability_eq_some_iff.1 h).1

theorem isSome_joinability_iff :
    (joinability l r).isSome = true ↔ normalizeColumn l = normalizeColumn r := by
  rw [Option.isSome_iff_exists]
  constructor
  · rintro ⟨basis, h⟩
    exact normalizeColumn_of_joinability h
  · intro h
    exact ⟨_, joinability_eq_some_iff.2 ⟨h, rfl⟩⟩

/-- Stems decide nothing. -/
theorem joinability_eq_ite (l r : String) :
    joinability l r =
      if sameIgnoringAsciiCase l r then some .exactName
      else if normalizeColumn l = normalizeColumn r then some .normalizedName else none := by
  refine Option.ext fun basis => ?_
  rw [joinability_eq_some_iff]
  by_cases hsame : sameIgnoringAsciiCase l r = true
  · simp [hsame, normalizeColumn_of_same hsame, eq_comm]
  · by_cases hnormal : normalizeColumn l = normalizeColumn r
    · simp [hsame, hnormal, eq_comm]
    · simp [hsame, hnormal]

theorem joinability_eq_exactName_iff :
    joinability l r = some .exactName ↔ sameIgnoringAsciiCase l r = true := by
  rw [joinability_eq_some_iff]
  constructor
  · rintro ⟨-, hbasis⟩
    by_contra hsame
    rw [if_neg hsame] at hbasis
    cases hbasis
  · intro hsame
    exact ⟨normalizeColumn_of_same hsame, (if_pos hsame).symm⟩

theorem joinability_eq_normalizedName_iff :
    joinability l r = some .normalizedName ↔
      normalizeColumn l = normalizeColumn r ∧ sameIgnoringAsciiCase l r = false := by
  rw [joinability_eq_some_iff]
  refine and_congr_right fun _ => ?_
  cases sameIgnoringAsciiCase l r with
  | true => simp
  | false => simp

theorem joinability_comm (l r : String) : joinability l r = joinability r l := by
  refine Option.ext fun basis => ?_
  rw [joinability_eq_some_iff, joinability_eq_some_iff, sameIgnoringAsciiCase_comm l r]
  exact and_congr_left' eq_comm

end CatalogGraph.Joins
