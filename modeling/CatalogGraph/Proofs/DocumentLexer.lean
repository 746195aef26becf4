import CatalogGraph.Json.Text
import CatalogGraph.Name
import CatalogGraph.Schema.Document

/-!
# Lexemes of schema documents

A schema document is read from left to right: names, texts between quotes, and marks; white space,
commas and a byte order mark only stand between them. A text ends before the end of its line, and
escapes in it take two characters. Texts in three quotes, escapes by code point, numbers and
comments do not occur in what is printed here, and are refused.

A line ends with a line feed. In the grammar of schema documents it ends with a carriage return as
well; readers that do not mind a carriage return in a text exist, so `returns` tells the two apart.

* `Reads.append` and `Reads.flatMap`: parts that are read one by one are read together.
* `reads_quotedLine`: a text between quotes is read back, whatever it holds, unless a carriage
  return ends the line inside it.
-/

namespace CatalogGraph.Syntax

/-! ## The lexer -/

/-- The smallest parts of a document that have a meaning. -/
inductive Lexeme where
  | name (name : String)
  | text (text : String)
  | mark (c : Char)
deriving DecidableEq

/-- A character that only keeps lexemes apart. -/
def isIgnored (c : Char) : Bool :=
  c = ' ' || c = '\t' || c = '\n' || c = '\r' || c = ',' || c = '\uFEFF'

/-- The marks of the grammar. -/
def marks : List Char := ['!', '$', '&', '(', ')', ':', '=', '@', '[', ']', '\x7b', '|', '\x7d']

/-- Where in a lexeme the reading is, and what of it has been read. -/
inductive Place where
  | between
  | inName (read : List Char)
  | inText (read : List Char)
  | escaping (read : List Char)
  /-- Right after an empty text, where a third quote would open a text of more than one line. -/
  | afterEmpty
deriving DecidableEq

/-- One character between two lexemes. -/
def enter (c : Char) : Option (List Lexeme × Place) :=
  if Name.isStart c then some ([], .inName [c])
  else if isIgnored c then some ([], .between)
  else if c = '"' then some ([], .inText [])
  else if c ∈ marks then some ([.mark c], .between)
  else none

/-- Whether a character is a carriage return that ends the line. -/
def isReturn (returns : Bool) (c : Char) : Bool := returns && c == '\r'

/-- One character of a document: the lexemes that end with it, and the place after it. -/
def step (returns : Bool) : Place → Char → Option (List Lexeme × Place)
  | .between, c => enter c
  | .inName read, c =>
    if Name.isRest c then some ([], .inName (read ++ [c]))
    else (enter c).map fun next => (.name (String.ofList read) :: next.1, next.2)
  | .inText read, c =>
    if c = '"' then
      some ([.text (String.ofList read)], if read = [] then .afterEmpty else .between)
    else if c = '\\' then some ([], .escaping read)
    else if c = '\n' || isReturn returns c then none
    else some ([], .inText (read ++ [c]))
  | .escaping read, c =>
    (Json.Draft.shortEscape? c).map fun d => ([], .inText (read ++ [d]))
  | .afterEmpty, c => if c = '"' then none else enter c

/-- The lexemes that end in a part of a document, and the place after it. -/
def run (returns : Bool) : Place → List Char → Option (List Lexeme × Place)
  | place, [] => some ([], place)
  | place, c :: cs =>
    (step returns place c).bind fun next =>
      (run returns next.2 cs).map fun rest => (next.1 ++ rest.1, rest.2)

/-- The lexeme that ends with the document. -/
def finish : Place → Option (List Lexeme)
  | .between | .afterEmpty => some []
  | .inName read => some [.name (String.ofList read)]
  | .inText _ | .escaping _ => none

/-- The lexemes of a document, if it has no other parts. -/
def lex (returns : Bool) (text : String) : Option (List Lexeme) :=
  (run returns .between text.toList).bind fun found => (finish found.2).map (found.1 ++ ·)

/-! ## Reading part by part -/

variable {returns : Bool} {place next : Place} {cs : List Char} {found more : List Lexeme}

theorem run_append (returns : Bool) (place : Place) (cs ds : List Char) :
    run returns place (cs ++ ds) = (run returns place cs).bind fun first =>
      (run returns first.2 ds).map fun rest => (first.1 ++ rest.1, rest.2) := by
  induction cs generalizing place with
  | nil =>
    have hid : (fun rest : List Lexeme × Place => ([] ++ rest.1, rest.2)) = id := rfl
    rw [List.nil_append, run, Option.bind_some, hid, Option.map_id, id]
  | cons c cs ih =>
    rw [List.cons_append, run, run]
    cases step returns place c with
    | none => rfl
    | some first =>
      rw [Option.bind_some, Option.bind_some, ih]
      cases run returns first.2 cs with
      | none => rfl
      | some second =>
        cases hrest : run returns second.2 ds with
        | none => simp [hrest]
        | some third => simp [hrest]

theorem run_append_of_eq (hcs : run returns place cs = some (found, next)) (ds : List Char) :
    run returns place (cs ++ ds) =
      (run returns next ds).map fun rest => (found ++ rest.1, rest.2) := by
  rw [run_append, hcs, Option.bind_some]

/-! ## Names -/

theorem run_inName {read : List Char} (hcs : cs.all Name.isRest = true) :
    run returns (.inName read) cs = some ([], .inName (read ++ cs)) := by
  induction cs generalizing read with
  | nil => rw [run, List.append_nil]
  | cons c cs ih =>
    rw [List.all_cons, Bool.and_eq_true] at hcs
    rw [run, step, if_pos hcs.1, Option.bind_some, ih hcs.2, List.append_assoc]
    rfl

theorem run_name {name : String} (h : Name.isValid name = true) :
    run returns .between name.toList = some ([], .inName name.toList) := by
  unfold Name.isValid at h
  cases hname : name.toList with
  | nil => simp [hname, Name.isValidChars] at h
  | cons c cs =>
    rw [hname, Name.isValidChars, Bool.and_eq_true] at h
    rw [run, step, enter, if_pos h.1, Option.bind_some, run_inName h.2]
    rfl

/-- A name ends before a character that cannot be part of it. -/
theorem run_name_then {name : String} (h : Name.isValid name = true) {c : Char}
    (hc : Name.isRest c = false) (cs : List Char) :
    run returns .between (name.toList ++ c :: cs) =
      (run returns .between (c :: cs)).map fun rest => (.name name :: rest.1, rest.2) := by
  -- The character is read once: where it ends the name it also begins what follows.
  rw [run_append_of_eq (run_name h), run, run, step, step, if_neg (by simp [hc])]
  cases enter c with
  | none => rfl
  | some next =>
    cases hrest : run returns next.2 cs with
    | none => simp [hrest]
    | some rest => simp [hrest]

/-! ## Descriptions -/

theorem run_escapeDescription (read : List Char) (c : Char) :
    run returns (.inText read) (Schema.escapeDescription c) =
      if isReturn returns c then none else some ([], .inText (read ++ [c])) := by
  have hescaped {d : Char} (hd : d = '"' ∨ d = '\\' ∨ d = '\n') : isReturn returns d = false := by
    rcases hd with rfl | rfl | rfl <;> simp [isReturn]
  unfold Schema.escapeDescription
  split
  · rename_i hc
    rw [hescaped (.inl hc), hc]
    rfl
  · rename_i hquote
    split
    · rename_i hc
      rw [hescaped (.inr (.inl hc)), hc]
      rfl
    · rename_i hbackslash
      split
      · rename_i hc
        rw [hescaped (.inr (.inr hc)), hc]
        rfl
      · rename_i hline
        rw [run, step, if_neg hquote, if_neg hbackslash]
        cases hreturn : isReturn returns c with
        | true => simp
        | false => simp [hline, run]

/-- Whether no carriage return ends the line inside a text. -/
def fitsLine (returns : Bool) (text : String) : Bool :=
  text.toList.all fun c => !isReturn returns c

theorem run_escaped (read text : List Char) :
    run returns (.inText read) (text.flatMap Schema.escapeDescription) =
      if text.all fun c => !isReturn returns c then some ([], .inText (read ++ text))
      else none := by
  induction text generalizing read with
  | nil => simp [run]
  | cons c text ih =>
    rw [List.flatMap_cons, run_append, run_escapeDescription, List.all_cons]
    cases isReturn returns c with
    | true => rfl
    | false =>
      rw [if_neg (by simp), Option.bind_some, ih, List.append_assoc, List.singleton_append,
        Bool.not_false, Bool.true_and]
      cases text.all fun c => !isReturn returns c <;> rfl

/-! ## Lines -/

/-- The text is read as the lexemes, from between two lexemes to between two lexemes, if it fits,
and is refused otherwise. -/
def Reads (returns fits : Bool) (text : String) (found : List Lexeme) : Prop :=
  run returns .between text.toList = if fits then some (found, .between) else none

namespace Reads

variable {fits fits' : Bool} {text text' : String}

theorem append (h : Reads returns fits text found) (h' : Reads returns fits' text' more) :
    Reads returns (fits && fits') (text ++ text') (found ++ more) := by
  unfold Reads at h h' ⊢
  rw [String.toList_append, run_append, h]
  cases fits with
  | false => rfl
  | true =>
    rw [if_pos rfl, Option.bind_some, h']
    cases fits' <;> rfl

theorem empty : Reads returns true "" [] := rfl

/-- Texts that are read one by one are read together. -/
theorem flatMap {α : Type} {fitsOf : α → Bool} {textOf : α → String}
    {foundOf : α → List Lexeme} {items : List α}
    (h : ∀ item ∈ items, Reads returns (fitsOf item) (textOf item) (foundOf item)) :
    Reads returns (items.all fitsOf) (String.join (items.map textOf)) (items.flatMap foundOf) := by
  induction items with
  | nil => exact empty
  | cons item rest ih =>
    rw [List.map_cons, String.join_cons, List.all_cons, List.flatMap_cons]
    have hitem := h item List.mem_cons_self
    have hrest := ih fun other hother => h other (List.mem_cons_of_mem item hother)
    exact hitem.append hrest

theorem lex_eq (h : Reads returns fits text found) :
    lex returns text = if fits then some found else none := by
  unfold Reads at h
  rw [lex, h]
  cases fits with
  | false => rfl
  | true => simp [finish]

end Reads

/-- A text between quotes at the end of a line. -/
def quotedLine (text : String) : String :=
  "\"" ++ String.ofList (text.toList.flatMap Schema.escapeDescription) ++ "\"\n"

theorem reads_quotedLine (text : String) :
    Reads returns (fitsLine returns text) (quotedLine text) [.text text] := by
  have hopen : run returns .between "\"".toList = some ([], .inText []) := rfl
  have hend : step returns (if text.toList = [] then .afterEmpty else .between) '\n' =
      some ([], .between) := by
    split <;> rfl
  have hclose : run returns (.inText text.toList) "\"\n".toList =
      some ([.text text], .between) := by
    change run returns (.inText text.toList) ['"', '\n'] = _
    rw [run, step, if_pos rfl, Option.bind_some, run, hend, String.ofList_toList]
    rfl
  unfold Reads fitsLine quotedLine
  rw [String.toList_append, String.toList_append, List.append_assoc, run_append_of_eq hopen,
    String.toList_ofList, run_append, run_escaped]
  cases text.toList.all fun c => !isReturn returns c with
  | false => rfl
  | true =>
    rw [if_pos rfl, Option.bind_some, List.nil_append, hclose]
    rfl

/-- A description is read as its text. -/
theorem reads_descriptionLine (text : String) :
    Reads returns (fitsLine returns text) (Schema.descriptionLine text) [.text text] := by
  have hindent : Reads returns true "  " [] := rfl
  have heq : Schema.descriptionLine text = "  " ++ quotedLine text := by
    rw [Schema.descriptionLine, quotedLine, ← String.append_assoc, ← String.append_assoc]
    rfl
  rw [heq]
  exact hindent.append (reads_quotedLine text)

/-- The text does not go on with a name that stands before it. -/
def Stops (text : String) : Prop := ∃ c, text.toList.head? = some c ∧ Name.isRest c = false

theorem Stops.append {text : String} (h : Stops text) (rest : String) : Stops (text ++ rest) := by
  obtain ⟨c, hc, hrest⟩ := h
  refine ⟨c, ?_, hrest⟩
  rw [String.toList_append, List.head?_append, hc]
  rfl

theorem Reads.after_name {fits : Bool} {name text : String} (hname : Name.isValid name = true)
    (hstops : Stops text) (htext : Reads returns fits text found) :
    Reads returns fits (name ++ text) (.name name :: found) := by
  obtain ⟨c, hhead, hc⟩ := hstops
  obtain ⟨cs, hcons⟩ := List.head?_eq_some_iff.1 hhead
  unfold Reads at htext ⊢
  rw [hcons] at htext
  rw [String.toList_append, hcons, run_name_then hname hc, htext]
  cases fits <;> rfl

end CatalogGraph.Syntax
