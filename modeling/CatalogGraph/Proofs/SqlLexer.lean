import CatalogGraph.Proofs.Digits
import CatalogGraph.Sql.Token
import Mathlib.Data.List.Chain

/-!
# Reading SQL back

A reader of SQL cuts a text into lexemes: names between double quotes, in which a doubled quote
stands for one, words, whole numbers, punctuation and placeholders. White space separates lexemes
and is passed over. The reader knows nothing of how statements are written.

* `lexChars_text`: the text of one token is read as the lexemes of the token, provided that the
  text after it does not prolong it.
* `lex_render`: so the text of a statement is read as the lexemes of its tokens, whatever the names
  in it hold, provided that neighbouring tokens stay apart.
-/

namespace CatalogGraph.Sql

open Text

/-! ## Lexemes -/

/-- What a reader of SQL sees. -/
inductive Lexeme where
  | quoted (name : String)
  | word (text : String)
  | integer (n : Nat)
  | punctuation (c : Char)
  | placeholder
deriving DecidableEq, Repr

/-- A character that may open a word. -/
def isWordStart (c : Char) : Bool := c.isAlpha || c == '_'

/-- A character that may stand later in a word. -/
def isWordRest (c : Char) : Bool := c.isAlphanum || c == '_'

/-- The characters that are lexemes of their own. -/
def isPunctuation (c : Char) : Bool := ['.', ',', ';', '*', '(', ')', '=', '<', '>'].contains c

/-- The name after an opening quote, and the text after the closing one. -/
def quotedName? : List Char → Option (List Char × List Char)
  | [] => none
  | c :: rest =>
    if c = '"' then
      match rest with
      | '"' :: after => (quotedName? after).map fun found => ('"' :: found.1, found.2)
      | _ => some ([], rest)
    else (quotedName? rest).map fun found => (c :: found.1, found.2)

/-- The first lexeme of a text that starts with one, and the text after it. -/
def lexeme? : List Char → Option (Lexeme × List Char)
  | [] => none
  | c :: rest =>
    if c = '"' then (quotedName? rest).map fun found => (.quoted (String.ofList found.1), found.2)
    else if isWordStart c then
      some (.word (String.ofList (c :: rest.takeWhile isWordRest)), rest.dropWhile isWordRest)
    else if c.isDigit then
      some (.integer (readDecimal (c :: rest.takeWhile Char.isDigit)), rest.dropWhile Char.isDigit)
    else if c = '?' then some (.placeholder, rest)
    else if isPunctuation c then some (.punctuation c, rest)
    else none

theorem length_of_quotedName? {cs : List Char} {found : List Char × List Char}
    (h : quotedName? cs = some found) : found.2.length < cs.length := by
  fun_induction quotedName? cs generalizing found with
  | case1 => cases h
  | case2 after ih =>
    obtain ⟨inner, hinner, rfl⟩ := Option.map_eq_some_iff.1 h
    have hlt := ih hinner
    simp only [List.length_cons]
    omega
  | case3 rest _ =>
    cases h
    exact Nat.lt_succ_self _
  | case4 c rest _ ih =>
    obtain ⟨inner, hinner, rfl⟩ := Option.map_eq_some_iff.1 h
    have hlt := ih hinner
    exact Nat.lt_succ_of_lt hlt

theorem length_of_lexeme? {cs : List Char} {found : Lexeme × List Char}
    (h : lexeme? cs = some found) : found.2.length < cs.length := by
  have hdrop (p : Char → Bool) (rest : List Char) : (rest.dropWhile p).length < rest.length + 1 :=
    Nat.lt_succ_of_le (List.dropWhile_suffix p).length_le
  cases cs with
  | nil => cases h
  | cons c rest =>
    simp only [lexeme?] at h
    split_ifs at h
    · obtain ⟨inner, hinner, rfl⟩ := Option.map_eq_some_iff.1 h
      have hlt := length_of_quotedName? hinner
      exact Nat.lt_succ_of_lt hlt
    · cases h
      exact hdrop _ _
    · cases h
      exact hdrop _ _
    · cases h
      exact Nat.lt_succ_self _
    · cases h
      exact Nat.lt_succ_self _

/-- The lexemes of a text; there are none where a part of the text is no lexeme. -/
def lexChars (cs : List Char) : Option (List Lexeme) :=
  match cs with
  | [] => some []
  | c :: rest =>
    match h : lexeme? (c :: rest) with
    | some found =>
      have := length_of_lexeme? h
      (lexChars found.2).map (found.1 :: ·)
    | none => if c.isWhitespace then lexChars rest else none
termination_by cs.length
decreasing_by
  · exact this
  · exact Nat.lt_succ_self _

/-- The lexemes of a statement. -/
def lex (sql : String) : Option (List Lexeme) := lexChars sql.toList

/-! ## Reading one lexeme -/

theorem lexChars_nil : lexChars [] = some [] := by rw [lexChars]

theorem lexChars_of_lexeme? {cs after : List Char} {lexeme : Lexeme}
    (h : lexeme? cs = some (lexeme, after)) :
    lexChars cs = (lexChars after).map (lexeme :: ·) := by
  cases cs with
  | nil => cases h
  | cons c rest =>
    rw [lexChars]
    split
    · rename_i found hfound
      rw [h] at hfound
      cases hfound
      rfl
    · rename_i hnone
      rw [h] at hnone
      cases hnone

theorem lexChars_space (rest : List Char) : lexChars (' ' :: rest) = lexChars rest := by
  have hnone : lexeme? (' ' :: rest) = none := by
    have hstart : isWordStart ' ' = false := by decide
    simp [lexeme?, hstart, isPunctuation, Char.isDigit]
  rw [lexChars]
  split
  · rename_i found hfound
    rw [hnone] at hfound
    cases hfound
  · rfl

/-- No character of the class stands at the start of the text. -/
def StopsAt (p : Char → Bool) (rest : List Char) : Prop := ∀ c ∈ rest.head?, p c = false

theorem takeWhile_append_of_stopsAt {p : Char → Bool} {cs rest : List Char}
    (hcs : ∀ c ∈ cs, p c = true) (hrest : StopsAt p rest) :
    (cs ++ rest).takeWhile p = cs ∧ (cs ++ rest).dropWhile p = rest := by
  rw [List.takeWhile_append_of_pos hcs, List.dropWhile_append_of_pos hcs]
  cases rest with
  | nil => simp
  | cons c rest =>
    have hc : ¬ p c = true := by simpa using hrest c rfl
    rw [List.takeWhile_cons_of_neg hc, List.dropWhile_cons_of_neg hc, List.append_nil]
    exact ⟨rfl, rfl⟩

/-- A text that is one word. -/
def isWordChars : List Char → Bool
  | [] => false
  | c :: cs => isWordStart c && cs.all isWordRest

theorem ne_quote_of_isWordStart {c : Char} (h : isWordStart c = true) : c ≠ '"' := by
  rintro rfl
  cases h

theorem lexChars_word {word rest : List Char} (hword : isWordChars word = true)
    (hrest : StopsAt isWordRest rest) :
    lexChars (word ++ rest) = (lexChars rest).map (.word (String.ofList word) :: ·) := by
  cases word with
  | nil => cases hword
  | cons c cs =>
    rw [isWordChars, Bool.and_eq_true, List.all_eq_true] at hword
    obtain ⟨htake, hdrop⟩ := takeWhile_append_of_stopsAt hword.2 hrest
    apply lexChars_of_lexeme?
    rw [List.cons_append, lexeme?, if_neg (ne_quote_of_isWordStart hword.1), if_pos hword.1, htake,
      hdrop]

theorem not_isWordStart_of_isDigit {c : Char} (h : c.isDigit = true) :
    c ≠ '"' ∧ ¬ isWordStart c = true := by
  simp only [Char.isDigit, ge_iff_le, Bool.and_eq_true, decide_eq_true_eq,
    UInt32.le_iff_toNat_le] at h
  have hlow : 48 ≤ c.val.toNat := h.1
  have hhigh : c.val.toNat ≤ 57 := h.2
  have hne (d : Char) (hd : d.val.toNat < 48 ∨ 57 < d.val.toNat) : c ≠ d := by
    rintro rfl
    omega
  refine ⟨hne '"' (by decide), ?_⟩
  simp only [isWordStart, Bool.or_eq_true, isAlpha_iff, beq_iff_eq, UInt32.le_iff_toNat_le]
  rintro ((⟨hupper, _⟩ | ⟨hlower, _⟩) | hline)
  · have hle : 65 ≤ c.val.toNat := hupper
    omega
  · have hle : 97 ≤ c.val.toNat := hlower
    omega
  · exact hne '_' (by decide) hline

theorem lexChars_integer (n : Nat) {rest : List Char} (hrest : StopsAt isWordRest rest) :
    lexChars (Nat.toDigits 10 n ++ rest) = (lexChars rest).map (.integer n :: ·) := by
  have hdigits : ∀ c ∈ Nat.toDigits 10 n, c.isDigit = true := fun c hc =>
    Nat.isDigit_of_mem_toDigits (by decide) (by decide) hc
  have hstop : StopsAt Char.isDigit rest := by
    intro c hc
    have hword := hrest c hc
    simp only [isWordRest, Char.isAlphanum, Bool.or_eq_false_iff] at hword
    exact hword.1.2
  have hread := readDecimal_toDigits n
  obtain ⟨c, cs, hcons⟩ := List.exists_cons_of_ne_nil (Nat.toDigits_ne_nil (n := n) (b := 10))
  rw [hcons] at hdigits hread ⊢
  obtain ⟨hquote, hstart⟩ := not_isWordStart_of_isDigit (hdigits c List.mem_cons_self)
  obtain ⟨htake, hdrop⟩ := takeWhile_append_of_stopsAt
    (fun d hd => hdigits d (List.mem_cons_of_mem c hd)) hstop
  apply lexChars_of_lexeme?
  rw [List.cons_append, lexeme?, if_neg hquote, if_neg hstart,
    if_pos (hdigits c List.mem_cons_self), htake, hdrop, hread]

theorem quotedName?_quote {rest : List Char} (hrest : StopsAt (· == '"') rest) :
    quotedName? ('"' :: rest) = some ([], rest) := by
  rw [quotedName?]
  · rfl
  · rintro after rfl
    cases hrest '"' rfl

theorem quotedName?_quotes (after : List Char) :
    quotedName? ('"' :: '"' :: after) =
      (quotedName? after).map fun found => ('"' :: found.1, found.2) := by
  rw [quotedName?, if_pos rfl]

theorem quotedName?_cons {c : Char} (hc : c ≠ '"') (rest : List Char) :
    quotedName? (c :: rest) = (quotedName? rest).map fun found => (c :: found.1, found.2) := by
  conv_lhs => unfold quotedName?
  rw [if_neg hc]

/-- A name is read back from between its quotes, whatever characters it holds. -/
theorem quotedName?_doubled (name : List Char) {rest : List Char}
    (hrest : StopsAt (· == '"') rest) :
    quotedName? (name.flatMap (fun c => if c = '"' then ['"', '"'] else [c]) ++ '"' :: rest) =
      some (name, rest) := by
  induction name with
  | nil => exact quotedName?_quote hrest
  | cons c name ih =>
    rw [List.flatMap_cons, List.append_assoc]
    by_cases hc : c = '"'
    · rw [if_pos hc, List.cons_append, List.singleton_append, quotedName?_quotes, ih, hc]
      rfl
    · rw [if_neg hc, List.singleton_append, quotedName?_cons hc, ih]
      rfl

theorem lexChars_quoteName (name : String) {rest : List Char} (hrest : StopsAt (· == '"') rest) :
    lexChars ((quoteName name).toList ++ rest) = (lexChars rest).map (.quoted name :: ·) := by
  apply lexChars_of_lexeme?
  rw [quoteName, String.toList_ofList, List.append_assoc, List.singleton_append, List.cons_append,
    lexeme?, if_pos rfl, quotedName?_doubled _ hrest]
  simp only [Option.map_some, String.ofList_toList]

/-! ## Reading one token -/

namespace Token

/-- A token that is read as a word or as a number. -/
def isWordlike : Token → Bool
  | .keyword _ | .label _ | .type _ | .integer _ => true
  | _ => false

/-- A token that ends with a quoted name. -/
def isQuoted : Token → Bool
  | .name _ | .path _ => true
  | _ => false

/-- A token whose text can be read: labels and types are words, numbers have no sign, and a path
leads somewhere. -/
def Readable : Token → Prop
  | .label word => isWordChars word.toList = true
  | .type word => isWordChars word.toList = true
  | .integer n => 0 ≤ n
  | .path parts => parts ≠ []
  | _ => True

/-- The character of a mark that is no space. -/
def markLexemes : Mark → List Lexeme
  | .dot => [.punctuation '.']
  | .star => [.punctuation '*']
  | .opening => [.punctuation '(']
  | .closing => [.punctuation ')']
  | .equal => [.punctuation '=']
  | .less => [.punctuation '<']
  | .greater => [.punctuation '>']
  | .space => []

/-- What a token is read as. -/
def lexemes : Token → List Lexeme
  | .keyword word => [.word word.text]
  | .mark m => markLexemes m
  | .name word => [.quoted word]
  | .path parts => (parts.map Lexeme.quoted).intersperse (.punctuation '.')
  | .label word => [.word word]
  | .type word => [.word word]
  | .integer n => [.integer n.toNat]
  | .placeholder => [.placeholder]

/-- Whether a character right after a token prolongs it. -/
def prolongs (t : Token) (c : Char) : Bool :=
  (t.isWordlike && isWordRest c) || (t.isQuoted && c == '"')

end Token

theorem lexChars_mark (m : Mark) (rest : List Char) :
    lexChars (m.text.toList ++ rest) = (lexChars rest).map (Token.markLexemes m ++ ·) := by
  have hone {c : Char} (h : lexeme? (c :: rest) = some (.punctuation c, rest)) :
      lexChars (c :: rest) = (lexChars rest).map ([.punctuation c] ++ ·) :=
    lexChars_of_lexeme? h
  cases m with
  | space =>
    rw [show Token.markLexemes .space = [] from rfl]
    simp only [List.nil_append, Option.map_id']
    exact lexChars_space rest
  | dot => exact hone rfl
  | star => exact hone rfl
  | opening => exact hone rfl
  | closing => exact hone rfl
  | equal => exact hone rfl
  | less => exact hone rfl
  | greater => exact hone rfl

theorem lexChars_placeholder (rest : List Char) :
    lexChars ('?' :: rest) = (lexChars rest).map (.placeholder :: ·) :=
  lexChars_of_lexeme? rfl

theorem isWordChars_keyword (word : Keyword) : isWordChars word.text.toList = true := by
  cases word <;> decide

/-- The names of a path, with points between them. -/
theorem lexChars_path {parts : List String} (hparts : parts ≠ []) {rest : List Char}
    (hrest : StopsAt (· == '"') rest) :
    lexChars ((String.intercalate "." (parts.map quoteName)).toList ++ rest) =
      (lexChars rest).map ((parts.map Lexeme.quoted).intersperse (.punctuation '.') ++ ·) := by
  induction parts with
  | nil => exact absurd rfl hparts
  | cons part parts ih =>
    cases parts with
    | nil => simpa using lexChars_quoteName part hrest
    | cons next parts =>
      have hpoint (after : List Char) : StopsAt (· == '"') (Mark.dot.text.toList ++ after) := by
        intro c hc
        cases hc
        rfl
      calc
        lexChars ((String.intercalate "." ((part :: next :: parts).map quoteName)).toList ++ rest)
          = lexChars ((quoteName part).toList ++ (Mark.dot.text.toList ++
              ((String.intercalate "." ((next :: parts).map quoteName)).toList ++ rest))) := by
            simp [String.intercalate_cons_cons, Mark.text]
        _ = _ := by
            rw [lexChars_quoteName part (hpoint _), lexChars_mark,
              ih (List.cons_ne_nil next parts)]
            simp [Token.markLexemes, Function.comp_def]

theorem lexChars_signedDecimal {n : Int} (hn : 0 ≤ n) {rest : List Char}
    (hrest : StopsAt isWordRest rest) :
    lexChars ((signedDecimal n).toList ++ rest) =
      (lexChars rest).map (.integer n.toNat :: ·) := by
  have habs : n.natAbs = n.toNat := by omega
  rw [signedDecimal, if_neg (by omega), decimal, String.toList_ofList, lexChars_integer _ hrest,
    habs]

theorem lexChars_text {t : Token} (ht : t.Readable) {rest : List Char}
    (hrest : StopsAt t.prolongs rest) :
    lexChars (t.text.toList ++ rest) = (lexChars rest).map (t.lexemes ++ ·) := by
  have hword (hlike : t.isWordlike = true) : StopsAt isWordRest rest := by
    intro c hc
    have h := hrest c hc
    simp only [Token.prolongs, hlike, Bool.true_and, Bool.or_eq_false_iff] at h
    exact h.1
  have hquote (hquoted : t.isQuoted = true) : StopsAt (· == '"') rest := by
    intro c hc
    have h := hrest c hc
    simp only [Token.prolongs, hquoted, Bool.true_and, Bool.or_eq_false_iff] at h
    exact h.2
  cases t with
  | keyword word =>
    simpa [Token.text, Token.lexemes] using lexChars_word (isWordChars_keyword word) (hword rfl)
  | mark m => exact lexChars_mark m rest
  | name word => exact lexChars_quoteName word (hquote rfl)
  | path parts => exact lexChars_path ht (hquote rfl)
  | label word => simpa [Token.text, Token.lexemes] using lexChars_word ht (hword rfl)
  | type word => simpa [Token.text, Token.lexemes] using lexChars_word ht (hword rfl)
  | integer n => exact lexChars_signedDecimal ht (hword rfl)
  | placeholder => exact lexChars_placeholder rest

/-! ## Reading a statement -/

/-- Two tokens that are read as two when they stand side by side. -/
def Apart (t u : Token) : Prop :=
  ¬ (t.isWordlike = true ∧ u.isWordlike = true) ∧ ¬ (t.isQuoted = true ∧ u.isQuoted = true)

theorem exists_cons_of_isWordChars {cs : List Char} (h : isWordChars cs = true) :
    ∃ c tail, cs = c :: tail ∧ c ≠ '"' := by
  cases cs with
  | nil => cases h
  | cons c tail =>
    rw [isWordChars, Bool.and_eq_true] at h
    exact ⟨c, tail, rfl, ne_quote_of_isWordStart h.1⟩

theorem quoteName_head (name : String) : ∃ tail, (quoteName name).toList = '"' :: tail :=
  ⟨_, String.toList_ofList⟩

theorem path_head {parts : List String} (hparts : parts ≠ []) :
    ∃ tail, (String.intercalate "." (parts.map quoteName)).toList = '"' :: tail := by
  obtain ⟨part, parts, rfl⟩ := List.exists_cons_of_ne_nil hparts
  obtain ⟨tail, htail⟩ := quoteName_head part
  cases parts with
  | nil => exact ⟨tail, by rw [List.map_singleton, String.intercalate_singleton, htail]⟩
  | cons next parts =>
    rw [List.map_cons, List.map_cons, String.intercalate_cons_cons, String.toList_append,
      String.toList_append, htail]
    exact ⟨_, rfl⟩

/-- How the text of a token starts: only words and numbers with a character of a word, only names
with a quote. -/
theorem text_head {t : Token} (ht : t.Readable) :
    ∃ c tail, t.text.toList = c :: tail ∧ (isWordRest c = true → t.isWordlike = true) ∧
      (c = '"' → t.isQuoted = true) := by
  have hword {cs : List Char} (h : isWordChars cs = true) (hlike : t.isWordlike = true) :
      ∃ c tail, cs = c :: tail ∧ (isWordRest c = true → t.isWordlike = true) ∧
        (c = '"' → t.isQuoted = true) := by
    obtain ⟨c, tail, hcons, hc⟩ := exists_cons_of_isWordChars h
    exact ⟨c, tail, hcons, fun _ => hlike, fun hq => absurd hq hc⟩
  cases t with
  | keyword word => exact hword (isWordChars_keyword word) rfl
  | label word => exact hword ht rfl
  | type word => exact hword ht rfl
  | integer n =>
    have hn : ¬ n < 0 := by
      have hle : 0 ≤ n := ht
      omega
    obtain ⟨c, tail, hcons⟩ :=
      List.exists_cons_of_ne_nil (Nat.toDigits_ne_nil (n := n.natAbs) (b := 10))
    have hc : c.isDigit = true := Nat.isDigit_of_mem_toDigits (b := 10) (n := n.natAbs) (by decide)
      (by decide) (hcons ▸ List.mem_cons_self)
    refine ⟨c, tail, ?_, fun _ => rfl, fun hq => absurd hq (not_isWordStart_of_isDigit hc).1⟩
    rw [Token.text, signedDecimal, if_neg hn, decimal, String.toList_ofList, hcons]
  | name word =>
    obtain ⟨tail, htail⟩ := quoteName_head word
    exact ⟨'"', tail, htail, fun h => absurd h (by decide), fun _ => rfl⟩
  | path parts =>
    obtain ⟨tail, htail⟩ := path_head ht
    exact ⟨'"', tail, htail, fun h => absurd h (by decide), fun _ => rfl⟩
  | mark m => cases m <;> exact ⟨_, [], rfl, by decide, by decide⟩
  | placeholder => exact ⟨'?', [], rfl, by decide, by decide⟩

/-- Neighbours that are apart do not prolong each other. -/
theorem stopsAt_of_apart {t u : Token} (hu : u.Readable) (h : Apart t u) (rest : List Char) :
    StopsAt t.prolongs (u.text.toList ++ rest) := by
  obtain ⟨d, tail, hcons, hword, hquoted⟩ := text_head hu
  intro c hc
  rw [hcons] at hc
  cases hc
  rw [Token.prolongs, Bool.or_eq_false_iff, Bool.and_eq_false_imp, Bool.and_eq_false_imp]
  constructor
  · intro ht
    by_contra hd
    exact h.1 ⟨ht, hword (by simpa using hd)⟩
  · intro ht
    by_contra hd
    exact h.2 ⟨ht, hquoted (by simpa using hd)⟩

/-- The text of a statement is read as what its tokens are read as. -/
theorem lex_render {tokens : List Token} (hreadable : ∀ t ∈ tokens, t.Readable)
    (hapart : tokens.IsChain Apart) :
    lex (render tokens) = some (tokens.flatMap Token.lexemes) := by
  rw [lex, render, String.toList_join, List.flatMap_map]
  induction tokens with
  | nil => exact lexChars_nil
  | cons t rest ih =>
    have hstop : StopsAt t.prolongs (rest.flatMap fun u => u.text.toList) := by
      cases rest with
      | nil =>
        intro c hc
        cases hc
      | cons u rest =>
        exact stopsAt_of_apart (hreadable u (by simp)) (List.isChain_cons_cons.1 hapart).1 _
    rw [List.flatMap_cons, lexChars_text (hreadable t List.mem_cons_self) hstop,
      ih (fun u hu => hreadable u (List.mem_cons_of_mem t hu)) hapart.tail]
    rfl

end CatalogGraph.Sql
