import CatalogGraph.Json.Codec
import CatalogGraph.Proofs.Dictionary
import CatalogGraph.Proofs.Digits

/-!
# Values read back from their compact texts

The compact text of a value without numbers, whose objects are in key order and which is not nested
too deep, gives the value back (`parse?_compact`). A string is read piece by piece: each character
is written as one piece, and the pieces are joined to the characters again.
-/

namespace CatalogGraph.Json

open Text

namespace Draft

/-! ## Strings -/

theorem joinPieces?_unit {n : Nat} (h : n < 0xD800) (pieces : List Piece) :
    joinPieces? (.unit n :: pieces) = (joinPieces? pieces).map (Char.ofNat n :: ·) := by
  have hhigh : isHighSurrogate n = false := by
    simp only [isHighSurrogate, Bool.and_eq_false_iff, decide_eq_false_iff_not]
    omega
  have hlow : isLowSurrogate n = false := by
    simp only [isLowSurrogate, Bool.and_eq_false_iff, decide_eq_false_iff_not]
    omega
  cases pieces with
  | nil => simp [joinPieces?, hhigh, hlow]
  | cons piece rest => cases piece <;> simp [joinPieces?, hhigh, hlow]

theorem pieces?_short {e c : Char} (hu : e ≠ 'u') (h : shortEscape? e = some c)
    (rest : List Char) :
    pieces? ('\\' :: e :: rest) = (pieces? rest).map fun (ps, after) => (.char c :: ps, after) := by
  rw [pieces?]
  · simp only [h]
  · intros
    simp_all

theorem pieces?_plain {c : Char} (hquote : c ≠ '"') (hslash : c ≠ '\\') (h : 0x20 ≤ c.toNat)
    (rest : List Char) :
    pieces? (c :: rest) = (pieces? rest).map fun (ps, after) => (.char c :: ps, after) := by
  rw [pieces?]
  · rw [if_neg (by omega)]
  · intros
    simp_all
  · intros
    simp_all
  · intros
    simp_all

theorem pieces?_unit (n : Nat) (h : n < 16 ^ 4) (rest : List Char) :
    pieces? ('\\' :: 'u' :: hexDigits hexSmall 4 n ++ rest) =
      (pieces? rest).map fun (ps, after) => (.unit n :: ps, after) := by
  have hread : readHex (hexDigits hexSmall 4 n) = n := readHex_hexDigits hexValue?_hexSmall h
  have hall : (hexDigits hexSmall 4 n).all isHexDigit = true :=
    List.all_eq_true.2 fun _ hc => isHexDigit_of_mem_hexDigits hexValue?_hexSmall hc
  have hlength := length_hexDigits hexSmall 4 n
  revert hread hall hlength
  generalize hexDigits hexSmall 4 n = digits
  intro hread hall hlength
  match digits, hlength with
  | [a, b, c, d], _ =>
    simp only [List.cons_append, List.nil_append, pieces?, hall, if_true, hread]

/-- The three ways in which a character is written. -/
theorem escapeChar_cases (c : Char) :
    (∃ e, e ≠ 'u' ∧ shortEscape? e = some c ∧ escapeChar c = ['\\', e]) ∨
      (c.toNat < 0x20 ∧ escapeChar c = '\\' :: 'u' :: hexDigits hexSmall 4 c.toNat) ∨
        (c ≠ '"' ∧ c ≠ '\\' ∧ 0x20 ≤ c.toNat ∧ escapeChar c = [c]) := by
  unfold escapeChar
  iterate 7
    split
    · rename_i h
      subst h
      exact .inl ⟨_, by decide, rfl, rfl⟩
  split
  · rename_i hcontrol
    exact .inr (.inl ⟨hcontrol, rfl⟩)
  · rename_i hquote hslash _ _ _ _ _ hcontrol
    exact .inr (.inr ⟨hquote, hslash, by omega, rfl⟩)

/-- A character is written as one piece, which is joined to the character again. -/
theorem exists_piece (c : Char) :
    ∃ piece, (∀ rest, pieces? (escapeChar c ++ rest) =
        (pieces? rest).map fun (ps, after) => (piece :: ps, after)) ∧
      ∀ pieces, joinPieces? (piece :: pieces) = (joinPieces? pieces).map (c :: ·) := by
  have hjoin (pieces : List Piece) :
      joinPieces? (.char c :: pieces) = (joinPieces? pieces).map (c :: ·) := by
    rw [joinPieces?]
  rcases escapeChar_cases c with ⟨e, hu, he, hc⟩ | ⟨hcontrol, hc⟩ | ⟨hquote, hslash, hplain, hc⟩
  · rw [hc]
    exact ⟨.char c, pieces?_short hu he, hjoin⟩
  · rw [hc]
    refine ⟨.unit c.toNat, pieces?_unit c.toNat (by omega), ?_⟩
    intro pieces
    rw [joinPieces?_unit (by omega), Char.ofNat_toNat]
  · rw [hc]
    exact ⟨.char c, pieces?_plain hquote hslash hplain, hjoin⟩

theorem exists_pieces (cs : List Char) :
    ∃ pieces, (∀ rest, pieces? (cs.flatMap escapeChar ++ '"' :: rest) = some (pieces, rest)) ∧
      joinPieces? pieces = some cs := by
  induction cs with
  | nil => exact ⟨[], fun rest => rfl, rfl⟩
  | cons c cs ih =>
    obtain ⟨pieces, hpieces, hjoin⟩ := ih
    obtain ⟨piece, hpiece, hchar⟩ := exists_piece c
    refine ⟨piece :: pieces, ?_, ?_⟩
    · intro rest
      rw [List.flatMap_cons, List.append_assoc, hpiece, hpieces]
      rfl
    · rw [hchar, hjoin]
      rfl

/-- A string is read back from what is written after its opening quote. -/
theorem string?_escaped (s : String) (rest : List Char) :
    string? (s.toList.flatMap escapeChar ++ '"' :: rest) = some (some s, rest) := by
  obtain ⟨pieces, hpieces, hjoin⟩ := exists_pieces s.toList
  simp only [string?, hpieces, Option.map_some, hjoin, String.ofList_toList]

end Draft

/-! ## Values -/

/-- A value without numbers, with objects in key order, that is nested `depth` deep at most. -/
def Tidy : Nat → Json → Prop
  | _, .null => True
  | _, .bool _ => True
  | _, .string _ => True
  | _, .int _ => False
  | _, .float _ => False
  | 0, .array _ => False
  | 0, .object _ => False
  | depth + 1, .array items => ∀ j ∈ items, Tidy depth j
  | depth + 1, .object members => Dictionary.Ascending members ∧ ∀ m ∈ members, Tidy depth m.2

theorem tidy_strings (depth : Nat) (items : List String) : Tidy (depth + 1) (strings items) := by
  intro j hj
  obtain ⟨s, -, rfl⟩ := List.mem_map.1 hj
  cases depth <;> exact trivial

theorem strings_inj {items items' : List String} :
    strings items = strings items' ↔ items = items' := by
  unfold strings
  rw [Json.array.injEq, List.map_inj_right fun _ _ => Json.string.inj]

namespace Draft

/-- The draft is read from the compact form of the value, and the value from the draft. -/
structure Of (depth : Nat) (j : Json) (draft : Draft) : Prop where
  parsed : ∀ fuel rest, 2 * (compactChars j).length ≤ fuel →
    value? fuel (compactChars j ++ rest) = some (draft, rest)
  read : readAt? .any depth draft = some j

theorem skip_of_not_space {c : Char} (h : isSpace c = false) (cs : List Char) :
    skip (c :: cs) = c :: cs := by
  simp [skip, h]

theorem exists_succ_of_length {cs : List Char} {c : Char} {fuel : Nat} {rest : List Char}
    (hcs : cs = c :: rest) (h : 2 * cs.length ≤ fuel) : ∃ n, fuel = n + 1 := by
  rw [hcs, List.length_cons] at h
  exact ⟨fuel - 1, by omega⟩

theorem of_null (depth : Nat) : Of depth .null .null where
  parsed := by
    intro fuel rest hfuel
    obtain ⟨fuel, rfl⟩ := exists_succ_of_length rfl hfuel
    simp only [compactChars, List.cons_append, List.nil_append, value?]
    rw [skip_of_not_space (by decide)]
    rfl
  read := rfl

theorem of_bool (depth : Nat) (b : Bool) : Of depth (.bool b) (.bool b) where
  parsed := by
    intro fuel rest hfuel
    cases b with
    | false =>
      obtain ⟨fuel, rfl⟩ := exists_succ_of_length rfl hfuel
      simp only [compactChars, List.cons_append, List.nil_append, value?]
      rw [skip_of_not_space (by decide)]
      rfl
    | true =>
      obtain ⟨fuel, rfl⟩ := exists_succ_of_length rfl hfuel
      simp only [compactChars, List.cons_append, List.nil_append, value?]
      rw [skip_of_not_space (by decide)]
      rfl
  read := rfl

theorem of_string (depth : Nat) (s : String) : Of depth (.string s) (.string (some s)) where
  parsed := by
    intro fuel rest hfuel
    obtain ⟨fuel, rfl⟩ := exists_succ_of_length rfl hfuel
    have hstring := string?_escaped s rest
    simp only [compactChars, quoted, List.cons_append, List.append_assoc, List.nil_append, value?]
    rw [skip_of_not_space (by decide)]
    simp only [hstring, Option.map_some]
  read := rfl

theorem exists_first {depth : Nat} {j : Json} (h : Tidy depth j) :
    ∃ c cs, compactChars j = c :: cs ∧ isSpace c = false ∧ c ≠ ']' := by
  cases j with
  | null => exact ⟨_, _, rfl, by decide⟩
  | bool b => cases b <;> exact ⟨_, _, rfl, by decide⟩
  | int n => cases depth <;> exact h.elim
  | float x => cases depth <;> exact h.elim
  | string s => exact ⟨_, _, rfl, by decide⟩
  | array items => exact ⟨_, _, rfl, by decide⟩
  | object members => exact ⟨_, _, rfl, by decide⟩

/-- Drafts of the items are drafts of the array. -/
theorem exists_items {depth : Nat} {items : List Json} (hne : items ≠ [])
    (h : ∀ j ∈ items, ∃ draft, Of depth j draft) :
    ∃ drafts, (∀ fuel rest, 2 * (compactItems items).length + 1 ≤ fuel →
        items? fuel (compactItems items ++ ']' :: rest) = some (drafts, rest)) ∧
      ∀ i, readItems? .any depth i drafts = some items := by
  induction items with
  | nil => exact absurd rfl hne
  | cons j items ih =>
    obtain ⟨draft, hparsed, hread⟩ := h j List.mem_cons_self
    cases items with
    | nil =>
      refine ⟨[draft], ?_, ?_⟩
      · intro fuel rest hfuel
        obtain ⟨fuel, rfl⟩ : ∃ n, fuel = n + 1 := ⟨fuel - 1, by omega⟩
        simp only [compactItems] at hfuel ⊢
        rw [items?, hparsed fuel _ (by omega)]
        simp (disch := decide) only [skip_of_not_space]
      · intro i
        simp [readItems?, Shape.item?, Shape.core, hread]
    | cons next items =>
      obtain ⟨drafts, hdrafts, hreads⟩ := ih (List.cons_ne_nil _ _)
        fun j' hj' => h j' (List.mem_cons_of_mem _ hj')
      refine ⟨draft :: drafts, ?_, ?_⟩
      · intro fuel rest hfuel
        obtain ⟨fuel, rfl⟩ : ∃ n, fuel = n + 1 := ⟨fuel - 1, by omega⟩
        rw [compactItems] at hfuel ⊢
        · simp only [List.length_append, List.length_cons] at hfuel
          rw [List.append_assoc, List.cons_append, items?, hparsed fuel _ (by omega)]
          simp (disch := decide) only [skip_of_not_space,
            hdrafts fuel rest (by omega), Option.map_some]
        · simp
        · simp
      · intro i
        simp [readItems?, Shape.item?, Shape.core, hread, hreads]

/-- Drafts of the members are drafts of the object. -/
theorem exists_members {depth : Nat} {members : List (String × Json)} (hne : members ≠ [])
    (h : ∀ m ∈ members, ∃ draft, Of depth m.2 draft) :
    ∃ drafts, (∀ fuel rest, 2 * (compactMembers members).length + 1 ≤ fuel →
        members? fuel (compactMembers members ++ '\x7d' :: rest) = some (drafts, rest)) ∧
      readMembers? .any depth drafts = some members := by
  induction members with
  | nil => exact absurd rfl hne
  | cons m members ih =>
    obtain ⟨key, j⟩ := m
    have hmember : ∃ draft, Of depth j draft := h (key, j) List.mem_cons_self
    obtain ⟨draft, hparsed, hread⟩ := hmember
    cases members with
    | nil =>
      refine ⟨[(some key, draft)], ?_, ?_⟩
      · intro fuel rest hfuel
        obtain ⟨fuel, rfl⟩ : ∃ n, fuel = n + 1 := ⟨fuel - 1, by omega⟩
        simp only [compactMembers, quoted, List.cons_append, List.append_assoc, List.nil_append,
          List.length_append, List.length_cons] at hfuel ⊢
        rw [members?]
        simp (disch := decide) only [skip_of_not_space, string?_escaped, hparsed fuel _ (by omega)]
      · simp [readMembers?, Shape.member?, Shape.core, hread]
    | cons next members =>
      obtain ⟨drafts, hdrafts, hreads⟩ := ih (List.cons_ne_nil _ _)
        fun m' hm' => h m' (List.mem_cons_of_mem _ hm')
      refine ⟨(some key, draft) :: drafts, ?_, ?_⟩
      · intro fuel rest hfuel
        obtain ⟨fuel, rfl⟩ : ∃ n, fuel = n + 1 := ⟨fuel - 1, by omega⟩
        rw [compactMembers] at hfuel ⊢
        · simp only [quoted, List.cons_append, List.append_assoc, List.nil_append,
            List.length_append, List.length_cons] at hfuel ⊢
          rw [members?]
          simp (disch := decide) only [skip_of_not_space, string?_escaped,
            hparsed fuel _ (by omega), hdrafts fuel rest (by omega), Option.map_some]
        · simp
        · simp
      · simp [readMembers?, Shape.member?, Shape.core, hread, hreads]

theorem compactItems_first {j : Json} {c : Char} {cs : List Char} (h : compactChars j = c :: cs)
    (items : List Json) : ∃ ds, compactItems (j :: items) = c :: ds := by
  cases items with
  | nil => exact ⟨cs, by simp [compactItems, h]⟩
  | cons next items => exact ⟨cs ++ ',' :: compactItems (next :: items), by simp [compactItems, h]⟩

theorem compactMembers_first (m : String × Json) (members : List (String × Json)) :
    ∃ cs, compactMembers (m :: members) = '"' :: cs := by
  obtain ⟨key, j⟩ := m
  cases members with
  | nil => exact ⟨_, rfl⟩
  | cons next members => exact ⟨_, rfl⟩

theorem exists_array {depth : Nat} {items : List Json} (htidy : ∀ j ∈ items, Tidy depth j)
    (h : ∀ j ∈ items, ∃ draft, Of depth j draft) :
    ∃ draft, Of (depth + 1) (.array items) draft := by
  cases items with
  | nil =>
    refine ⟨.array [], ?_, rfl⟩
    intro fuel rest hfuel
    obtain ⟨fuel, rfl⟩ := exists_succ_of_length rfl hfuel
    simp (disch := decide) only [compactChars, compactItems, List.cons_append, List.nil_append,
      value?, skip_of_not_space]
  | cons j items =>
    obtain ⟨c, cs, hc, hspace, hclose⟩ := exists_first (htidy j List.mem_cons_self)
    obtain ⟨ds, hds⟩ := compactItems_first hc items
    obtain ⟨drafts, hdrafts, hreads⟩ := exists_items (List.cons_ne_nil j items) h
    refine ⟨.array drafts, ?_, by simp [readAt?, hreads]⟩
    intro fuel rest hfuel
    obtain ⟨fuel, rfl⟩ := exists_succ_of_length rfl hfuel
    simp only [compactChars, List.length_cons, List.length_append, List.cons_append,
      List.append_assoc, List.nil_append] at hfuel ⊢
    have hitems := hdrafts fuel rest (by omega)
    rw [hds, List.cons_append] at hitems ⊢
    simp (disch := decide) only [value?, skip_of_not_space, skip_of_not_space hspace]
    -- The text after the bracket starts with an item, so the array is not the empty one.
    split
    · rename_i heq
      exact absurd (List.cons.inj heq).1 hclose
    · rw [hitems, Option.map_some]

theorem exists_object {depth : Nat} {members : List (String × Json)}
    (hmembers : Dictionary.Ascending members) (h : ∀ m ∈ members, ∃ draft, Of depth m.2 draft) :
    ∃ draft, Of (depth + 1) (.object members) draft := by
  cases members with
  | nil =>
    refine ⟨.object [], ?_, rfl⟩
    intro fuel rest hfuel
    obtain ⟨fuel, rfl⟩ := exists_succ_of_length rfl hfuel
    simp (disch := decide) only [compactChars, compactMembers, List.cons_append, List.nil_append,
      value?, skip_of_not_space]
  | cons m members =>
    obtain ⟨cs, hcs⟩ := compactMembers_first m members
    obtain ⟨drafts, hdrafts, hreads⟩ := exists_members (List.cons_ne_nil m members) h
    refine ⟨.object drafts, ?_, ?_⟩
    · intro fuel rest hfuel
      obtain ⟨fuel, rfl⟩ := exists_succ_of_length rfl hfuel
      simp only [compactChars, List.length_cons, List.length_append, List.cons_append,
        List.append_assoc, List.nil_append] at hfuel ⊢
      have hparsed := hdrafts fuel rest (by omega)
      rw [hcs, List.cons_append] at hparsed ⊢
      simp (disch := decide) only [value?, skip_of_not_space, hparsed, Option.map_some]
      rfl
    · simp [readAt?, hreads, Shape.gather?, Shape.core, Dictionary.ofList_eq_self hmembers]

/-- A tidy value has a draft. -/
theorem exists_draft {depth : Nat} {j : Json} (h : Tidy depth j) : ∃ draft, Of depth j draft := by
  induction depth generalizing j with
  | zero =>
    cases j with
    | null => exact ⟨_, of_null 0⟩
    | bool b => exact ⟨_, of_bool 0 b⟩
    | string s => exact ⟨_, of_string 0 s⟩
    | _ => exact h.elim
  | succ depth ih =>
    cases j with
    | null => exact ⟨_, of_null _⟩
    | bool b => exact ⟨_, of_bool _ b⟩
    | string s => exact ⟨_, of_string _ s⟩
    | array items => exact exists_array h fun j hj => ih (h j hj)
    | object members => exact exists_object h.1 fun m hm => ih (h.2 m hm)
    | _ => exact h.elim

end Draft

/-- A tidy value is read back from its compact text. -/
theorem parse?_compact {j : Json} (h : Tidy Draft.greatestDepth j) :
    parse? j.compact = some j := by
  obtain ⟨draft, hparsed, hread⟩ := Draft.exists_draft h
  have hvalue := hparsed (2 * (compactChars j).length + 2) [] (by omega)
  rw [List.append_nil] at hvalue
  simp only [parse?, ofText?, Draft.parse?, compact, String.toList_ofList, hvalue]
  exact hread

/-- Tidy values are told apart by their compact texts. -/
theorem compact_inj {j j' : Json} (h : Tidy Draft.greatestDepth j)
    (h' : Tidy Draft.greatestDepth j') : j.compact = j'.compact ↔ j = j' := by
  constructor
  · intro htext
    have hread := parse?_compact h
    rw [htext, parse?_compact h'] at hread
    exact (Option.some.inj hread).symm
  · exact congrArg compact

end CatalogGraph.Json
