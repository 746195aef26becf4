import CatalogGraph.Json.Printer
import CatalogGraph.Proofs.Digits

/-!
# Characters of compact texts

The compact text of a value holds no control character below the space: strings have them escaped,
and numbers are written in digits, signs and points. So a text is never cut off at a NUL.
-/

namespace CatalogGraph.Json

open Text

/-- No control character below the space. -/
def NoControls (cs : List Char) : Prop := ∀ c ∈ cs, 0x20 ≤ c.toNat

theorem noControls_nil : NoControls [] := fun _ h => nomatch h

theorem noControls_of_all {cs : List Char} (h : (cs.all fun c => 0x20 ≤ c.toNat) = true) :
    NoControls cs := fun c hc => of_decide_eq_true (List.all_eq_true.1 h c hc)

theorem NoControls.append {cs ds : List Char} (hcs : NoControls cs) (hds : NoControls ds) :
    NoControls (cs ++ ds) :=
  fun c hc => (List.mem_append.1 hc).elim (hcs c) (hds c)

theorem NoControls.cons {c : Char} {cs : List Char} (hc : 0x20 ≤ c.toNat) (hcs : NoControls cs) :
    NoControls (c :: cs) :=
  List.forall_mem_cons.2 ⟨hc, hcs⟩

theorem NoControls.of_subset {cs ds : List Char} (hds : NoControls ds) (h : cs ⊆ ds) :
    NoControls cs := fun c hc => hds c (h hc)

theorem le_toNat_of_isDigit {c : Char} (h : c.isDigit = true) : 0x20 ≤ c.toNat := by
  simp only [Char.isDigit, Bool.and_eq_true, decide_eq_true_eq, UInt32.le_iff_toNat_le,
    ge_iff_le] at h
  have hzero : ('0' : Char).val.toNat = 48 := rfl
  change 0x20 ≤ c.val.toNat
  omega

theorem noControls_decimal (n : Nat) : NoControls (decimal n).toList := by
  intro c hc
  rw [decimal, String.toList_ofList] at hc
  exact le_toNat_of_isDigit (Nat.isDigit_of_mem_toDigits (by decide) (by decide) hc)

theorem noControls_signedDecimal (n : Int) : NoControls (signedDecimal n).toList := by
  unfold signedDecimal
  split
  · rw [String.toList_append]
    exact .append (noControls_of_all (by decide)) (noControls_decimal _)
  · exact noControls_decimal _

theorem noControls_pointed {digits : List Char} (h : NoControls digits) (exponent : Int) :
    NoControls (Double.pointed digits exponent) := by
  have hzeros (n : Nat) : NoControls (List.replicate n '0') := by
    intro c hc
    rw [List.eq_of_mem_replicate hc]
    decide
  unfold Double.pointed
  dsimp only
  split
  · exact h.append (hzeros _)
  · split
    · exact (h.of_subset (List.take_subset _ _)).append
        (.cons (by decide) (h.of_subset (List.drop_subset _ _)))
    · exact (NoControls.cons (by decide) (.cons (by decide) (hzeros _))).append h

theorem noControls_json (x : Double) : NoControls x.json.toList := by
  have hdigits := noControls_decimal (Decimal.shortest x).coefficient
  have hsign : NoControls x.signChars := by
    unfold Double.signChars
    split
    · exact .cons (by decide) noControls_nil
    · exact noControls_nil
  unfold Double.json
  simp only [String.toList_ofList]
  refine hsign.append ?_
  split
  · split
    · exact (noControls_pointed hdigits _).append (.cons (by decide) (.cons (by decide)
        noControls_nil))
    · exact noControls_pointed hdigits _
  · refine .append (.append ?_ (.cons (by decide) ?_)) (noControls_signedDecimal _)
    · split
      · exact noControls_nil
      · rename_i hone
        exact hone ▸ hdigits
      · rename_i c more hmore
        rw [hmore] at hdigits
        obtain ⟨hc, hmore⟩ := List.forall_mem_cons.1 hdigits
        exact .cons hc (.cons (by decide) hmore)
    · split
      · exact .cons (by decide) noControls_nil
      · exact noControls_nil

theorem noControls_escapeChar (c : Char) : NoControls (escapeChar c) := by
  unfold escapeChar
  iterate 7
    split
    · exact noControls_of_all (by decide)
  split
  · refine .cons (by decide) (.cons (by decide) ?_)
    intro d hd
    have hhex := isHexDigit_of_mem_hexDigits hexValue?_hexSmall hd
    refine Nat.le_of_not_lt fun hlow => ?_
    have hnot : ∀ n < 0x20, isHexDigit (Char.ofNat n) = false := by decide
    have hd' := hnot d.toNat (by omega)
    rw [Char.ofNat_toNat, hhex] at hd'
    cases hd'
  · rename_i hcontrol
    exact .cons (by omega) noControls_nil

theorem noControls_quoted (cs : List Char) : NoControls (quoted cs) := by
  refine .append (.cons (by decide) ?_) (.cons (by decide) noControls_nil)
  intro d hd
  obtain ⟨c, -, hc⟩ := List.mem_flatMap.1 hd
  exact noControls_escapeChar c d hc

mutual

theorem noControls_compactChars (j : Json) : NoControls (compactChars j) := by
  cases j with
  | null => exact noControls_of_all (by decide)
  | bool b => cases b <;> exact noControls_of_all (by decide)
  | int n => exact noControls_signedDecimal n
  | float x => exact noControls_json x
  | string s => exact noControls_quoted s.toList
  | array items =>
    exact .append (.cons (by decide) (noControls_compactItems items)) (.cons (by decide)
      noControls_nil)
  | object members =>
    exact .append (.cons (by decide) (noControls_compactMembers members)) (.cons (by decide)
      noControls_nil)

theorem noControls_compactItems (items : List Json) : NoControls (compactItems items) := by
  match items with
  | [] => exact noControls_nil
  | [j] => exact noControls_compactChars j
  | j :: next :: rest =>
    exact .append (noControls_compactChars j) (.cons (by decide)
      (noControls_compactItems (next :: rest)))

theorem noControls_compactMembers (members : List (String × Json)) :
    NoControls (compactMembers members) := by
  match members with
  | [] => exact noControls_nil
  | [(key, j)] =>
    exact .append (noControls_quoted key.toList) (.cons (by decide) (noControls_compactChars j))
  | (key, j) :: next :: rest =>
    exact .append (.append (noControls_quoted key.toList) (.cons (by decide)
      (noControls_compactChars j))) (.cons (by decide) (noControls_compactMembers (next :: rest)))

end

/-- The text of a value is kept whole, since it holds no NUL. -/
theorem nul_not_mem_compact (j : Json) : '\x00' ∉ j.compact.toList := by
  rw [compact, String.toList_ofList]
  intro hnul
  exact absurd (noControls_compactChars j _ hnul) (by decide)

end CatalogGraph.Json
