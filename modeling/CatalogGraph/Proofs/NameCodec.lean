import CatalogGraph.Name
import CatalogGraph.Proofs.Digits

/-!
# The name codec is invertible

`restore` reads a rewritten name from left to right and decodes every token that it meets. The
reading stays in step with the writing, because what follows a kept underscore never completes a
token: a kept underscore has fewer than four hexadecimal digits after its `U`, and rewriting
changes no run of hexadecimal digits (`takeWhile_isHexDigit_escapeFrom`).

* `restore_sanitize`: a name outside the grammar is restored from its rewritten form.
* `isValid_sanitize`: a rewritten name fits the grammar, so rewriting twice changes nothing more.
* `sanitize_stable`: which names are rewritten, and that their forms stay as they are.
* `sanitize_injective_of_restore`: names that are restored have different rewritten forms.
* `sanitize_faithful`: which names are restored, and which names share a rewritten form.
-/

namespace CatalogGraph.Name

open Text

/-! ## Reading one token -/

theorem token?_of_ne {c : Char} (h : c ≠ '_') (rest : List Char) : token? (c :: rest) = none := by
  unfold token?
  split
  · rename_i heq
    cases heq
    exact absurd rfl h
  · rfl

theorem token?_underscore_of_ne {c : Char} (h : c ≠ 'U') (rest : List Char) :
    token? ('_' :: c :: rest) = none := by
  unfold token?
  split
  · rename_i heq
    cases heq
    exact absurd rfl h
  · rfl

/-- Only the digits right after the `U` can be the digits of a token. -/
theorem digits_of_token? {cs digits rest : List Char}
    (h : token? ('_' :: 'U' :: cs) = some (digits, rest)) :
    digits = cs.takeWhile isHexDigit ∧ 4 ≤ digits.length := by
  simp only [token?] at h
  split at h
  · split at h
    · rename_i hlength
      cases h
      exact ⟨rfl, hlength.1⟩
    · cases h
  · cases h

theorem isHexDigit_underscore : isHexDigit '_' = false := by decide

theorem token?_digits {digits : List Char} (hhex : ∀ c ∈ digits, isHexDigit c = true)
    (hmin : 4 ≤ digits.length) (hmax : digits.length ≤ 6) (rest : List Char) :
    token? ('_' :: 'U' :: (digits ++ '_' :: rest)) = some (digits, rest) := by
  have hdrop : (digits ++ '_' :: rest).dropWhile isHexDigit = '_' :: rest := by
    rw [List.dropWhile_append_of_pos hhex]
    exact List.dropWhile_cons_of_neg (by simp [isHexDigit_underscore])
  have htake : (digits ++ '_' :: rest).takeWhile isHexDigit = digits := by
    rw [List.takeWhile_append_of_pos hhex,
      List.takeWhile_cons_of_neg (by simp [isHexDigit_underscore]), List.append_nil]
  simp only [token?, hdrop, htake, hmin, hmax, and_self, if_true]

theorem restoreChars_of_token? {cs digits rest : List Char} (h : token? cs = some (digits, rest)) :
    restoreChars cs = decodeToken digits ++ restoreChars rest := by
  rw [restoreChars]
  split
  · rename_i digits' rest' h'
    rw [h] at h'
    cases h'
    rfl
  · rename_i h'
    rw [h] at h'
    cases h'

theorem restoreChars_cons {c : Char} {rest : List Char} (h : token? (c :: rest) = none) :
    restoreChars (c :: rest) = c :: restoreChars rest := by
  rw [restoreChars]
  split
  · rename_i h'
    rw [h] at h'
    cases h'
  · rfl

theorem restoreChars_nil : restoreChars [] = [] := by
  rw [restoreChars]
  rfl

/-! ## Reading an escaped character -/

theorem toNat_lt (c : Char) : c.toNat < 16 ^ 6 := by
  have h := c.valid
  simp only [UInt32.isValidChar, Nat.isValidChar] at h
  change c.val.toNat < 16 ^ 6
  omega

/-- How many digits the token of a character has. -/
theorem escape_width (c : Char) :
    4 ≤ max 4 (hexWidth c.toNat) ∧ max 4 (hexWidth c.toNat) ≤ 6 ∧
      c.toNat < 16 ^ max 4 (hexWidth c.toNat) := by
  have hsix := hexWidth_le_six (toNat_lt c)
  refine ⟨Nat.le_max_left _ _, by omega, ?_⟩
  calc c.toNat < 16 ^ hexWidth c.toNat := lt_pow_hexWidth (Nat.lt_trans (toNat_lt c) (by decide))
    _ ≤ 16 ^ max 4 (hexWidth c.toNat) := Nat.pow_le_pow_right (by decide) (Nat.le_max_right _ _)

theorem token?_escape (c : Char) (rest : List Char) :
    token? (escape c ++ rest) =
      some (hexDigits hexCapital (max 4 (hexWidth c.toNat)) c.toNat, rest) := by
  obtain ⟨hmin, hmax, _⟩ := escape_width c
  simp only [escape, List.cons_append, List.append_assoc, List.nil_append]
  refine token?_digits (fun d hd => isHexDigit_of_mem_hexDigits hexValue?_hexCapital hd) ?_ ?_ rest
  · rw [length_hexDigits]
    exact hmin
  · rw [length_hexDigits]
    exact hmax

/-- The token of a character is read back as the character, whatever follows it. -/
theorem restoreChars_escape (c : Char) (rest : List Char) :
    restoreChars (escape c ++ rest) = c :: restoreChars rest := by
  have hread := readHex_hexDigits hexValue?_hexCapital (escape_width c).2.2
  have hvalid : c.toNat.isValidChar := c.valid
  rw [restoreChars_of_token? (token?_escape c rest), decodeToken]
  simp only [hread, hvalid, if_true, Char.ofNat_toNat, List.singleton_append]

/-! ## Runs of hexadecimal digits -/

theorem isAlphanum_of_isHexDigit {c : Char} (h : isHexDigit c = true) : c.isAlphanum = true := by
  simp only [Char.isAlphanum, Char.isDigit, Bool.or_eq_true, Bool.and_eq_true, decide_eq_true_eq,
    isAlpha_iff]
  unfold isHexDigit hexValue? at h
  simp only [Char.le_def] at h
  split_ifs at h with hdigit hcapital hsmall
  · right
    exact hdigit
  · left
    left
    exact ⟨hcapital.1, Nat.le_trans hcapital.2 (by decide)⟩
  · left
    right
    exact ⟨hsmall.1, Nat.le_trans hsmall.2 (by decide)⟩
  · cases h

theorem escape_eq_cons (c : Char) : ∃ tail, escape c = '_' :: tail := ⟨_, rfl⟩

theorem isKept_of_isHexDigit {c : Char} (h : isHexDigit c = true) (rest : List Char) :
    isKept false c rest = true := by
  have hne : c ≠ '_' := by
    rintro rfl
    rw [isHexDigit_underscore] at h
    cases h
  simp [isKept, hne, isRest, isAlphanum_of_isHexDigit h]

/-- Rewriting neither lengthens nor shortens a run of hexadecimal digits. -/
theorem takeWhile_isHexDigit_escapeFrom (cs : List Char) :
    (escapeFrom false cs).takeWhile isHexDigit = cs.takeWhile isHexDigit := by
  induction cs with
  | nil => rfl
  | cons c rest ih =>
    rw [escapeFrom]
    by_cases hhex : isHexDigit c = true
    · rw [if_pos (isKept_of_isHexDigit hhex rest), List.singleton_append,
        List.takeWhile_cons_of_pos hhex, List.takeWhile_cons_of_pos hhex, ih]
    · rw [List.takeWhile_cons_of_neg hhex]
      split
      · exact List.takeWhile_cons_of_neg hhex
      · obtain ⟨tail, htail⟩ := escape_eq_cons c
        rw [htail, List.cons_append]
        exact List.takeWhile_cons_of_neg (by simp [isHexDigit_underscore])

theorem opensToken_iff (cs : List Char) :
    opensToken ('U' :: cs) = true ↔ 4 ≤ (cs.takeWhile isHexDigit).length := by
  rcases cs with _ | ⟨a, _ | ⟨b, _ | ⟨c, _ | ⟨d, rest⟩⟩⟩⟩ <;>
    simp only [opensToken, List.takeWhile_cons, List.takeWhile_nil] <;> grind

/-- A kept underscore starts no token in the rewritten name. -/
theorem token?_kept_underscore {rest : List Char} (h : opensToken rest = false) :
    token? ('_' :: escapeFrom false rest) = none := by
  cases rest with
  | nil => rfl
  | cons c tail =>
    rw [escapeFrom]
    split
    · by_cases hU : c = 'U'
      · subst hU
        rw [List.singleton_append, Option.eq_none_iff_forall_ne_some]
        rintro ⟨digits, after⟩ htoken
        obtain ⟨rfl, hlength⟩ := digits_of_token? htoken
        rw [takeWhile_isHexDigit_escapeFrom, ← opensToken_iff, h] at hlength
        cases hlength
      · exact token?_underscore_of_ne hU _
    · exact token?_underscore_of_ne (by decide) _

/-! ## Round trip -/

theorem restoreChars_escapeFrom (first : Bool) (cs : List Char) :
    restoreChars (escapeFrom first cs) = cs := by
  induction cs generalizing first with
  | nil => exact restoreChars_nil
  | cons c rest ih =>
    rw [escapeFrom]
    split
    · rename_i hkept
      rw [List.singleton_append, restoreChars_cons, ih]
      by_cases hc : c = '_'
      · subst hc
        exact token?_kept_underscore (by simpa [isKept] using hkept)
      · exact token?_of_ne hc _
    · rw [restoreChars_escape, ih]

theorem sanitize_of_isValid {x : String} (h : isValid x = true) : sanitize x = x := by
  rw [isValid] at h
  rw [sanitize, sanitizeChars, if_pos h, String.ofList_toList]

theorem restore_sanitize {x : String} (h : ¬ isValid x = true) : restore (sanitize x) = x := by
  rw [isValid] at h
  rw [restore, sanitize, String.toList_ofList, sanitizeChars, if_neg h, restoreChars_escapeFrom,
    String.ofList_toList]

/-! ## The grammar of rewritten names -/

theorem isRest_of_isStart {c : Char} (h : isStart c = true) : isRest c = true := by
  rw [isStart, Bool.or_eq_true] at h
  rw [isRest, Bool.or_eq_true]
  exact h.imp_left fun halpha => by simp [Char.isAlphanum, halpha]

theorem isRest_of_isHexDigit {c : Char} (h : isHexDigit c = true) : isRest c = true := by
  simp [isRest, isAlphanum_of_isHexDigit h]

theorem isRest_of_mem_escape {c d : Char} (h : d ∈ escape c) : isRest d = true := by
  simp only [escape, List.cons_append, List.mem_cons, List.mem_append, List.not_mem_nil,
    or_false] at h
  rcases h with rfl | rfl | h | rfl
  · decide
  · decide
  · exact isRest_of_isHexDigit (isHexDigit_of_mem_hexDigits hexValue?_hexCapital h)
  · decide

theorem isRest_of_isKept {first : Bool} {c : Char} {rest : List Char}
    (h : isKept first c rest = true) : isRest c = true := by
  unfold isKept at h
  split at h
  · rename_i hc
    subst hc
    decide
  · split at h
    · exact isRest_of_isStart h
    · exact h

theorem isRest_of_mem_escapeFrom {first : Bool} {cs : List Char} {d : Char}
    (h : d ∈ escapeFrom first cs) : isRest d = true := by
  induction cs generalizing first with
  | nil => cases h
  | cons c rest ih =>
    rw [escapeFrom] at h
    rcases List.mem_append.1 h with h | h
    · split at h
      · rename_i hkept
        rw [List.mem_singleton.1 h]
        exact isRest_of_isKept hkept
      · exact isRest_of_mem_escape h
    · exact ih h

theorem isStart_of_isKept {c : Char} {rest : List Char} (h : isKept true c rest = true) :
    isStart c = true := by
  unfold isKept at h
  split at h
  · rename_i hc
    subst hc
    decide
  · exact h

theorem isValidChars_escapeFrom {cs : List Char} (h : cs ≠ []) :
    isValidChars (escapeFrom true cs) = true := by
  obtain ⟨c, rest, rfl⟩ := List.exists_cons_of_ne_nil h
  -- The head of the rewritten name is the kept first character or the underscore of its token.
  obtain ⟨d, tail, hcons, hstart⟩ :
      ∃ d tail, escapeFrom true (c :: rest) = d :: tail ∧ isStart d = true := by
    rw [escapeFrom]
    split
    · rename_i hkept
      exact ⟨c, _, rfl, isStart_of_isKept hkept⟩
    · exact ⟨'_', _, rfl, by decide⟩
  rw [hcons, isValidChars, hstart, Bool.true_and, List.all_eq_true]
  intro e he
  exact isRest_of_mem_escapeFrom (hcons ▸ List.mem_cons_of_mem d he)

/-- A rewritten name fits the grammar, unless it is empty. -/
theorem isValid_sanitize {x : String} (h : x ≠ "") : isValid (sanitize x) = true := by
  rw [isValid, sanitize, String.toList_ofList, sanitizeChars]
  split
  · assumption
  · exact isValidChars_escapeFrom (by simpa using h)

theorem sanitize_empty : sanitize "" = "" := by decide

/-- Rewriting a rewritten name changes nothing. -/
@[simp]
theorem sanitize_sanitize (x : String) : sanitize (sanitize x) = sanitize x := by
  by_cases h : x = ""
  · rw [h, sanitize_empty, sanitize_empty]
  · exact sanitize_of_isValid (isValid_sanitize h)

/-! ## Names that are rewritten -/

theorem isValid_sanitize_iff (x : String) : isValid (sanitize x) = true ↔ x ≠ "" := by
  constructor
  · rintro hvalid rfl
    rw [sanitize_empty] at hvalid
    exact absurd hvalid (by decide)
  · exact isValid_sanitize

theorem sanitize_eq_self_iff (x : String) : sanitize x = x ↔ isValid x = true ∨ x = "" := by
  constructor
  · intro hsame
    by_cases hempty : x = ""
    · exact Or.inr hempty
    · have hvalid := isValid_sanitize hempty
      rw [hsame] at hvalid
      exact Or.inl hvalid
  · rintro (hvalid | rfl)
    · exact sanitize_of_isValid hvalid
    · exact sanitize_empty

/-- A name that was rewritten is rewritten to the same form after it has been restored. -/
theorem sanitize_restore_sanitize {x : String} (h : sanitize x ≠ x) :
    sanitize (restore (sanitize x)) = sanitize x := by
  have hinvalid : ¬ isValid x = true := by
    intro hvalid
    exact h (sanitize_of_isValid hvalid)
  rw [restore_sanitize hinvalid]

/-- Every name but the empty one is rewritten to a name of the grammar, which rewriting leaves
alone; only names of the grammar, and the empty one, stay as they are; and the form of a name that
was rewritten comes back when it is restored and rewritten again. -/
theorem sanitize_stable (x : String) :
    (isValid (sanitize x) = true ↔ x ≠ "") ∧ sanitize (sanitize x) = sanitize x ∧
      (sanitize x = x ↔ isValid x = true ∨ x = "") ∧
      (sanitize x ≠ x → sanitize (restore (sanitize x)) = sanitize x) :=
  ⟨isValid_sanitize_iff x, sanitize_sanitize x, sanitize_eq_self_iff x, sanitize_restore_sanitize⟩

/-- A leading digit, an underscore that could open a token, and digits right after an escaped
character. -/
theorem sanitize_stable_digit :
    isValid (sanitize "4_U0041-0041_") = true ∧ sanitize "4_U0041-0041_" ≠ "4_U0041-0041_" ∧
      sanitize "4_U0041-0041_" = "_U0034__U005F_U0041_U002D_0041_" ∧
      sanitize (restore (sanitize "4_U0041-0041_")) = "_U0034__U005F_U0041_U002D_0041_" := by
  obtain ⟨hvalid, -, -, hback⟩ := sanitize_stable "4_U0041-0041_"
  have hrewritten : sanitize "4_U0041-0041_" ≠ "4_U0041-0041_" := by decide
  have hform : sanitize "4_U0041-0041_" = "_U0034__U005F_U0041_U002D_0041_" := by decide
  exact ⟨hvalid.2 (by decide), hrewritten, hform, (hback hrewritten).trans hform⟩

/-! ## Names with one rewritten form -/

/-- A name that shares its rewritten form with a name outside the grammar is that form. -/
theorem eq_sanitize_of_sanitize_eq {x y : String} (hne : x ≠ y) (h : sanitize x = sanitize y)
    (hx : isValid x = true) : ¬ isValid y = true ∧ x = sanitize y := by
  have hform : x = sanitize y := (sanitize_of_isValid hx).symm.trans h
  refine ⟨fun hy => hne ?_, hform⟩
  rw [hform, sanitize_of_isValid hy]

/-- Names that restoring gives back have different rewritten forms. -/
theorem sanitize_injective_of_restore {x y : String} (hx : restore x = x) (hy : restore y = y)
    (h : sanitize x = sanitize y) : x = y := by
  have hround {z : String} (hz : restore z = z) : restore (sanitize z) = z := by
    by_cases hv : isValid z = true
    · rw [sanitize_of_isValid hv, hz]
    · exact restore_sanitize hv
  rw [← hround hx, h, hround hy]

/-- Which names are restored from their rewritten forms, and which names share a rewritten form: a
name outside the grammar always is restored, a name of the grammar exactly when restoring leaves it
alone, and two names share a form only where one is in the grammar and is the form of the other. -/
theorem sanitize_faithful (x y : String) :
    (¬ isValid x = true → restore (sanitize x) = x) ∧
      (isValid x = true → (restore (sanitize x) = x ↔ restore x = x)) ∧
      (x ≠ y → sanitize x = sanitize y →
        (isValid x = true ∧ ¬ isValid y = true ∧ x = sanitize y) ∨
          (isValid y = true ∧ ¬ isValid x = true ∧ y = sanitize x)) := by
  refine ⟨restore_sanitize, fun hx => by rw [sanitize_of_isValid hx], fun hne h => ?_⟩
  by_cases hx : isValid x = true
  · obtain ⟨hy, hform⟩ := eq_sanitize_of_sanitize_eq hne h hx
    exact Or.inl ⟨hx, hy, hform⟩
  · by_cases hy : isValid y = true
    · obtain ⟨_, hform⟩ := eq_sanitize_of_sanitize_eq hne.symm h.symm hy
      exact Or.inr ⟨hy, hx, hform⟩
    · -- Both names are restored from the one form.
      exact absurd ((restore_sanitize hx).symm.trans ((congrArg restore h).trans
        (restore_sanitize hy))) hne

/-- The closing underscore of a token before the text of another one, and the one form that the
text of a token shares with the character it stands for. -/
theorem sanitize_faithful_minus :
    restore (sanitize "-U0041_U12 ") = "-U0041_U12 " ∧
      ¬ restore (sanitize "_U002D_") = "_U002D_" ∧
      isValid "_U002D_" = true ∧ ¬ isValid "-" = true ∧ "_U002D_" = sanitize "-" := by
  have hrestored := (sanitize_faithful "-U0041_U12 " "").1 (by decide)
  have hvalid := (sanitize_faithful "_U002D_" "-").2.1 (by decide)
  have hshared := (sanitize_faithful "_U002D_" "-").2.2 (by decide) (by decide)
  refine ⟨hrestored, fun h => absurd (hvalid.1 h) (by decide +kernel), ?_⟩
  rcases hshared with h | h
  · exact h
  · exact absurd h.2.1 (by decide)

end CatalogGraph.Name
