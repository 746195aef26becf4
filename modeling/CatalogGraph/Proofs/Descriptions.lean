import CatalogGraph.Json.Text
import CatalogGraph.Schema.Document

/-!
# Descriptions as string literals

A description is written as a string literal of the grammar of schema documents: two spaces and,
between quotes, a body in which every quote is part of an escape. The body goes on to the end of its
line, and it is decoded to the text (`descriptionLine_exact`).

The grammar ends a line at a line feed and at a carriage return. A carriage return is written as it
is, so a text that holds one has no literal (`return_breaks_literal`); all other texts have.
-/

namespace CatalogGraph.Schema

open Json Text

variable {c : Char} {cs front rest text : List Char}

/-! ## Bodies of literals -/

/-- Whether the character after these ones belongs to an escape, since a backslash that is not
escaped itself stands before it. -/
def escapesNext (cs : List Char) : Bool :=
  cs.foldl (fun escapes c => !escapes && c == '\\') false

/-- The parts of a body: characters, escapes of one character, and escapes by number. A quote and a
backslash stand in escapes only. -/
def bodyPieces? : List Char → Option (List Draft.Piece)
  | [] => some []
  | '"' :: _ => none
  | ['\\'] => none
  | '\\' :: 'u' :: a :: b :: c :: d :: rest =>
    if [a, b, c, d].all isHexDigit then
      (bodyPieces? rest).map fun pieces => .unit (readHex [a, b, c, d]) :: pieces
    else none
  | '\\' :: e :: rest =>
    match Draft.shortEscape? e with
    | some c => (bodyPieces? rest).map fun pieces => .char c :: pieces
    | none => none
  | c :: rest => (bodyPieces? rest).map fun pieces => .char c :: pieces

/-- The text that a body stands for. -/
def decodeBody? (body : String) : Option String :=
  ((bodyPieces? body.toList).bind Draft.joinPieces?).map String.ofList

/-- The description of the text is written as this body between quotes, in which no quote ends the
literal early and no line feed ends the line, and which is decoded to the text. -/
structure Written (text body : String) : Prop where
  line : descriptionLine text = "  \"" ++ body ++ "\"\n"
  escaped : ∀ front rest, body.toList = front ++ '"' :: rest → escapesNext front = true
  closed : escapesNext body.toList = false
  no_feed : '\n' ∉ body.toList
  decoded : decodeBody? body = some text

/-- Moreover, no carriage return ends the line. -/
structure Literal (text body : String) : Prop extends Written text body where
  no_return : '\r' ∉ body.toList

/-! ## One character -/

/-- A character of a description is written as an escape of one character, or as itself. -/
theorem escapeDescription_cases (c : Char) :
    (∃ e, e ≠ 'u' ∧ e ≠ '\r' ∧ e ≠ '\n' ∧ Draft.shortEscape? e = some c ∧
      escapeDescription c = ['\\', e]) ∨
    (c ≠ '"' ∧ c ≠ '\\' ∧ c ≠ '\n' ∧ escapeDescription c = [c]) := by
  unfold escapeDescription
  iterate 3
    split
    · rename_i h
      subst h
      exact .inl ⟨_, by decide, by decide, by decide, rfl, rfl⟩
  rename_i hquote hslash hfeed
  exact .inr ⟨hquote, hslash, hfeed, rfl⟩

theorem escapesNext_escapeDescription (c : Char) : escapesNext (escapeDescription c) = false := by
  rcases escapeDescription_cases c with ⟨e, -, -, -, -, hc⟩ | ⟨-, hslash, -, hc⟩
  · rw [hc]
    rfl
  · rw [hc]
    simp [escapesNext, hslash]

theorem escapesNext_of_escapeDescription (h : escapeDescription c = front ++ '"' :: rest) :
    escapesNext front = true := by
  rcases escapeDescription_cases c with ⟨e, -, -, -, -, hc⟩ | ⟨hquote, -, -, hc⟩
  · rw [hc] at h
    cases front with
    | nil => exact absurd (List.cons.inj h).1 (by decide)
    | cons d front =>
      obtain ⟨rfl, htail⟩ := List.cons.inj h
      cases front with
      | nil => rfl
      | cons d front => simp at htail
  · rw [hc] at h
    cases front with
    | nil => exact absurd (List.cons.inj h).1 hquote
    | cons d front => simp at h

theorem feed_not_mem_escapeDescription (c : Char) : '\n' ∉ escapeDescription c := by
  rcases escapeDescription_cases c with ⟨e, -, -, hfeed, -, hc⟩ | ⟨-, -, hfeed, hc⟩
  · rw [hc]
    simp [hfeed.symm]
  · rw [hc]
    simp [hfeed.symm]

/-- A carriage return is written as it is. -/
theorem return_mem_escapeDescription_iff : '\r' ∈ escapeDescription c ↔ c = '\r' := by
  constructor
  · rcases escapeDescription_cases c with ⟨e, -, hreturn, -, -, hc⟩ | ⟨-, -, -, hc⟩
    · rw [hc]
      simp [hreturn.symm]
    · rw [hc]
      exact fun h => (List.mem_singleton.1 h).symm
  · rintro rfl
    decide

theorem bodyPieces?_escapeDescription (c : Char) (rest : List Char) :
    bodyPieces? (escapeDescription c ++ rest) =
      (bodyPieces? rest).map fun pieces => .char c :: pieces := by
  rcases escapeDescription_cases c with ⟨e, hunit, -, -, he, hc⟩ | ⟨hquote, hslash, -, hc⟩
  · rw [hc, List.cons_append, List.cons_append, List.nil_append, bodyPieces?]
    · simp only [he]
    · intros
      simp_all
  · rw [hc, List.singleton_append, bodyPieces?]
    -- The character is none of those that start the other cases.
    all_goals
      intros
      simp_all

/-! ## Whole descriptions -/

theorem escapesNext_append (h : escapesNext cs = false) (rest : List Char) :
    escapesNext (cs ++ rest) = escapesNext rest := by
  unfold escapesNext at h ⊢
  rw [List.foldl_append, h]

theorem escapesNext_flatMap (text : List Char) :
    escapesNext (text.flatMap escapeDescription) = false := by
  induction text with
  | nil => rfl
  | cons c text ih =>
    rw [List.flatMap_cons, escapesNext_append (escapesNext_escapeDescription c), ih]

/-- Every quote of a body is escaped. -/
theorem escapesNext_of_flatMap (h : text.flatMap escapeDescription = front ++ '"' :: rest) :
    escapesNext front = true := by
  induction text generalizing front with
  | nil => simp at h
  | cons c text ih =>
    rw [List.flatMap_cons] at h
    -- The quote belongs to the rest of the body or to the first character.
    rcases List.append_eq_append_iff.1 h with ⟨more, rfl, hbody⟩ | ⟨more, hc, hrest⟩
    · rw [escapesNext_append (escapesNext_escapeDescription c)]
      exact ih hbody
    · cases more with
      | nil =>
        have hempty : escapesNext [] = true := ih hrest.symm
        cases hempty
      | cons d more =>
        obtain ⟨rfl, -⟩ := List.cons.inj hrest
        exact escapesNext_of_escapeDescription hc

theorem bodyPieces?_flatMap (text : List Char) :
    bodyPieces? (text.flatMap escapeDescription) = some (text.map .char) := by
  induction text with
  | nil => rfl
  | cons c text ih =>
    rw [List.flatMap_cons, bodyPieces?_escapeDescription, ih]
    rfl

theorem joinPieces?_map (text : List Char) : Draft.joinPieces? (text.map .char) = some text := by
  induction text with
  | nil => rfl
  | cons c text ih =>
    rw [List.map_cons, Draft.joinPieces?, ih]
    rfl

/-- The body that a description is written as. -/
def descriptionBody (text : String) : String :=
  String.ofList (text.toList.flatMap escapeDescription)

theorem written_descriptionBody (text : String) : Written text (descriptionBody text) where
  line := rfl
  escaped front rest h := by
    rw [descriptionBody, String.toList_ofList] at h
    exact escapesNext_of_flatMap h
  closed := by
    rw [descriptionBody, String.toList_ofList]
    exact escapesNext_flatMap _
  no_feed := by
    rw [descriptionBody, String.toList_ofList, List.mem_flatMap]
    rintro ⟨c, -, hc⟩
    exact feed_not_mem_escapeDescription c hc
  decoded := by
    rw [descriptionBody, decodeBody?, String.toList_ofList, bodyPieces?_flatMap, Option.bind_some,
      joinPieces?_map, Option.map_some, String.ofList_toList]

theorem return_mem_descriptionBody_iff {text : String} :
    '\r' ∈ (descriptionBody text).toList ↔ '\r' ∈ text.toList := by
  rw [descriptionBody, String.toList_ofList, List.mem_flatMap]
  simp only [return_mem_escapeDescription_iff, exists_eq_right]

theorem Written.eq_descriptionBody {text body : String} (h : Written text body) :
    body = descriptionBody text := by
  have hline : ("  \"" ++ body ++ "\"\n").toList =
      ("  \"" ++ descriptionBody text ++ "\"\n").toList :=
    congrArg String.toList (h.line.symm.trans (written_descriptionBody text).line)
  rw [String.toList_append, String.toList_append, String.toList_append, String.toList_append,
    List.append_cancel_right_eq, List.append_cancel_left_eq] at hline
  exact String.toList_inj.1 hline

theorem literal_iff {text body : String} :
    Literal text body ↔ body = descriptionBody text ∧ '\r' ∉ text.toList := by
  constructor
  · intro h
    obtain rfl := h.toWritten.eq_descriptionBody
    exact ⟨rfl, fun hmem => h.no_return (return_mem_descriptionBody_iff.2 hmem)⟩
  · rintro ⟨rfl, hreturn⟩
    exact ⟨written_descriptionBody text, fun hmem => hreturn (return_mem_descriptionBody_iff.1 hmem)⟩

/-- Every description is written as one body between quotes that is decoded to its text, in which
every quote is escaped and which holds no line feed. It holds the carriage returns of the text, so
it is a string literal exactly when there are none. -/
theorem descriptionLine_exact (text : String) :
    ∃ body, Written text body ∧ ('\r' ∈ body.toList ↔ '\r' ∈ text.toList) ∧
      ∀ other, Literal text other ↔ other = body ∧ '\r' ∉ text.toList :=
  ⟨descriptionBody text, written_descriptionBody text, return_mem_descriptionBody_iff,
    fun _ => literal_iff⟩

/-- The type of a column with a carriage return at its end has no literal. -/
theorem return_breaks_literal : ¬ ∃ body, Literal "Native type: bigint\r" body := by
  rintro ⟨body, h⟩
  exact (literal_iff.1 h).2 (by decide)

example : decodeBody? "a\\u00e9\\\"\\ud83d\\ude00\\/" = some "aé\"😀/" := by decide +kernel

end CatalogGraph.Schema
