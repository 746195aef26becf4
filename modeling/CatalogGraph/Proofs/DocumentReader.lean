import CatalogGraph.Proofs.DocumentLexer

/-!
# Reading schema documents

The definitions of a schema document: the root types, object types, input types and enumerations.
The reader follows the grammar of schema documents from left to right, with one lexeme of look
ahead. What a block of each kind may hold is checked when the block is closed. That a block holds
something at all is not checked, so an empty block can be told of.

Nothing is lost between definitions and lexemes: `definitions?_lexemes`.
-/

namespace CatalogGraph.Syntax

/-! ## Definitions -/

/-- A type as it is written where a member or a parameter is declared. -/
inductive Written where
  | named (name : String) (required : Bool)
  | list (inner : Written) (required : Bool)
deriving DecidableEq

/-- The named type below any lists. -/
def Written.target : Written → String
  | .named name _ => name
  | .list inner _ => inner.target

structure Parameter where
  name : String
  type : Written
deriving DecidableEq

/-- A line of a block. A value of an enumeration has no type. -/
structure Member where
  description : Option String
  name : String
  parameters : List Parameter
  type : Option Written
deriving DecidableEq

inductive Heading where
  | schema
  | type (name : String)
  | input (name : String)
  | enum (name : String)
deriving DecidableEq

/-- The name that is defined; the root types are not a type of their own. -/
def Heading.name? : Heading → Option String
  | .schema => none
  | .type name | .input name | .enum name => some name

structure Definition where
  description : Option String
  heading : Heading
  members : List Member
deriving DecidableEq

/-- Whether a type is just a name. -/
def isBare : Option Written → Bool
  | some (.named _ required) => !required
  | _ => false

/-- Whether a block of the kind may have the member. -/
def Heading.takes (heading : Heading) (m : Member) : Bool :=
  match heading with
  | .schema => m.description.isNone && m.parameters.isEmpty && isBare m.type
  | .type _ => m.type.isSome
  | .input _ => m.parameters.isEmpty && m.type.isSome
  | .enum _ => m.parameters.isEmpty && m.type.isNone

/-! ## The reader -/

/-- Without the mark, if it comes next. -/
def skip? (c : Char) : List Lexeme → Option (List Lexeme)
  | .mark d :: rest => if d = c then some rest else none
  | _ => none

def written? : List Lexeme → Option (Written × List Lexeme)
  | .name name :: rest =>
    match skip? '!' rest with
    | some rest => some (.named name true, rest)
    | none => some (.named name false, rest)
  | .mark '[' :: rest => do
    let (inner, rest) ← written? rest
    let rest ← skip? ']' rest
    match skip? '!' rest with
    | some rest => some (.list inner true, rest)
    | none => some (.list inner false, rest)
  | _ => none

/-- The items up to the closing mark. No item starts with a mark, and each takes a lexeme, so there
are no more than `count` of them. -/
def until? {α : Type} (item? : List Lexeme → Option (α × List Lexeme)) (closing : Char) :
    Nat → List Lexeme → Option (List α × List Lexeme)
  | 0, _ => none
  | _ + 1, .mark c :: rest => if c = closing then some ([], rest) else none
  | count + 1, ls => do
    let (item, rest) ← item? ls
    let (items, rest) ← until? item? closing count rest
    return (item :: items, rest)

def parameter? : List Lexeme → Option (Parameter × List Lexeme)
  | .name name :: rest => do
    let (type, rest) ← written? (← skip? ':' rest)
    return (⟨name, type⟩, rest)
  | _ => none

/-- The parameters between parentheses, which do not stand around nothing. -/
def parameters? (ls : List Lexeme) : Option (List Parameter × List Lexeme) :=
  match skip? '(' ls with
  | none => some ([], ls)
  | some rest => (until? parameter? ')' rest.length rest).filter fun found => !found.1.isEmpty

def type? (ls : List Lexeme) : Option (Option Written × List Lexeme) :=
  match skip? ':' ls with
  | none => some (none, ls)
  | some rest => (written? rest).map fun found => (some found.1, found.2)

def description? : List Lexeme → Option String × List Lexeme
  | .text text :: rest => (some text, rest)
  | ls => (none, ls)

def member? (ls : List Lexeme) : Option (Member × List Lexeme) :=
  match description? ls with
  | (description, .name name :: rest) => do
    let (parameters, rest) ← parameters? rest
    let (type, rest) ← type? rest
    return (⟨description, name, parameters, type⟩, rest)
  | _ => none

def heading? : List Lexeme → Option (Heading × List Lexeme)
  | .name "schema" :: rest => some (.schema, rest)
  | .name "type" :: .name name :: rest => some (.type name, rest)
  | .name "input" :: .name name :: rest => some (.input name, rest)
  | .name "enum" :: .name name :: rest => some (.enum name, rest)
  | _ => none

def definition? (ls : List Lexeme) : Option (Definition × List Lexeme) := do
  let (description, rest) := description? ls
  let (heading, rest) ← heading? rest
  let rest ← skip? '\x7b' rest
  let (members, rest) ← until? member? '\x7d' rest.length rest
  if members.all heading.takes then some (⟨description, heading, members⟩, rest) else none

/-- The definitions up to the end, which are no more than `count`. -/
def definitions? : Nat → List Lexeme → Option (List Definition)
  | _, [] => some []
  | 0, _ => none
  | count + 1, ls => do
    let (definition, rest) ← definition? ls
    return definition :: (← definitions? count rest)

/-- The definitions of a document. -/
def read (returns : Bool) (text : String) : Option (List Definition) := do
  let ls ← lex returns text
  definitions? ls.length ls

example : read true "enum E \x7b a \"b\" c \x7d type T \x7b f(x: Int!, y: [E!]): [[T]]! \x7d" =
    some [⟨none, .enum "E", [⟨none, "a", [], none⟩, ⟨some "b", "c", [], none⟩]⟩,
      ⟨none, .type "T", [⟨none, "f",
        [⟨"x", .named "Int" true⟩, ⟨"y", .list (.named "E" true) false⟩],
        some (.list (.list (.named "T" false) false) true)⟩]⟩] := by
  decide +kernel

/-! ## Lexemes of definitions -/

/-- The mark after a type that is required. -/
def requiredLexemes (required : Bool) : List Lexeme := if required then [.mark '!'] else []

def Written.lexemes : Written → List Lexeme
  | .named name required => .name name :: requiredLexemes required
  | .list inner required => .mark '[' :: (inner.lexemes ++ .mark ']' :: requiredLexemes required)

def Parameter.lexemes (p : Parameter) : List Lexeme := .name p.name :: .mark ':' :: p.type.lexemes

/-- The parentheses, which are left out where there is nothing between them. -/
def parametersLexemes (ps : List Parameter) : List Lexeme :=
  if ps = [] then [] else .mark '(' :: (ps.flatMap Parameter.lexemes ++ [.mark ')'])

def descriptionLexemes (description : Option String) : List Lexeme :=
  (description.map Lexeme.text).toList

def typeLexemes : Option Written → List Lexeme
  | none => []
  | some type => .mark ':' :: type.lexemes

def Member.lexemes (m : Member) : List Lexeme :=
  descriptionLexemes m.description ++
    .name m.name :: (parametersLexemes m.parameters ++ typeLexemes m.type)

def Heading.lexemes : Heading → List Lexeme
  | .schema => [.name "schema"]
  | .type name => [.name "type", .name name]
  | .input name => [.name "input", .name name]
  | .enum name => [.name "enum", .name name]

def Definition.lexemes (d : Definition) : List Lexeme :=
  descriptionLexemes d.description ++ d.heading.lexemes ++
    .mark '\x7b' :: (d.members.flatMap Member.lexemes ++ [.mark '\x7d'])

/-! ## Lexemes are read back -/

/-- What comes next does not go on with a member or with a type. -/
def Calm (rest : List Lexeme) : Prop := ∀ c ∈ ['!', '(', ':'], skip? c rest = none

theorem calm_mark {c : Char} (hc : c ∉ ['!', '(', ':']) (rest : List Lexeme) :
    Calm (.mark c :: rest) := by
  intro d hd
  have hne : c ≠ d := fun heq => hc (heq ▸ hd)
  rw [skip?, if_neg hne]

theorem Calm.not_required {rest : List Lexeme} (h : Calm rest) : skip? '!' rest = none :=
  h '!' (by simp)

theorem written?_lexemes (type : Written) {rest : List Lexeme} (hrest : Calm rest) :
    written? (type.lexemes ++ rest) = some (type, rest) := by
  induction type generalizing rest with
  | named name required =>
    cases required with
    | true => rfl
    | false =>
      change written? (.name name :: rest) = _
      rw [written?, hrest.not_required]
  | list inner required ih =>
    have hinner (after : List Lexeme) :
        written? (inner.lexemes ++ .mark ']' :: after) = some (inner, .mark ']' :: after) :=
      ih (calm_mark (by decide) after)
    rw [Written.lexemes, List.cons_append, List.append_assoc, List.cons_append, written?, hinner]
    cases required with
    | true => rfl
    | false =>
      change (match skip? '!' rest with
        | some rest => some (Written.list inner true, rest)
        | none => some (Written.list inner false, rest)) = _
      rw [hrest.not_required]

/-- What starts with something else than a mark. -/
def Unmarked (ls : List Lexeme) : Prop := ∃ first rest, ls = first :: rest ∧ ∀ c, first ≠ .mark c

theorem Unmarked.ne_nil {ls : List Lexeme} (h : Unmarked ls) : ls ≠ [] := by
  obtain ⟨first, rest, rfl, -⟩ := h
  exact List.cons_ne_nil first rest

theorem Unmarked.calm {ls : List Lexeme} (h : Unmarked ls) (rest : List Lexeme) :
    Calm (ls ++ rest) := by
  obtain ⟨first, after, rfl, hfirst⟩ := h
  intro c hc
  cases first with
  | name name => rfl
  | text text => rfl
  | mark d => exact absurd rfl (hfirst d)

section Until

variable {α : Type} {item? : List Lexeme → Option (α × List Lexeme)} {closing : Char}
  {lexemes : α → List Lexeme} {items : List α}

theorem until?_cons (count : Nat) {ls : List Lexeme} (h : Unmarked ls) :
    until? item? closing (count + 1) ls = (item? ls).bind fun found =>
      (until? item? closing count found.2).map fun others => (found.1 :: others.1, others.2) := by
  obtain ⟨first, after, rfl, hfirst⟩ := h
  rw [until?]
  · cases item? (first :: after) with
    | none => rfl
    | some found =>
      cases hrest : until? item? closing count found.2 <;> simp [hrest]
  · exact fun c rest heq => hfirst c (List.cons.inj heq).1

/-- Items that are read one by one are read up to the closing mark. -/
theorem until?_lexemes (hclosing : closing ∉ ['!', '(', ':'])
    (hstart : ∀ item, Unmarked (lexemes item))
    (hitem : ∀ item ∈ items, ∀ rest, Calm rest → item? (lexemes item ++ rest) = some (item, rest))
    {count : Nat} (hcount : items.length < count) (rest : List Lexeme) :
    until? item? closing count (items.flatMap lexemes ++ .mark closing :: rest) =
      some (items, rest) := by
  induction items generalizing count with
  | nil =>
    obtain ⟨count, rfl⟩ := Nat.exists_eq_succ_of_ne_zero (Nat.ne_zero_of_lt hcount)
    rw [List.flatMap_nil, List.nil_append, until?, if_pos rfl]
  | cons item items ih =>
    obtain ⟨count, rfl⟩ := Nat.exists_eq_succ_of_ne_zero (Nat.ne_zero_of_lt hcount)
    -- An item ends where the next one starts, or at the closing mark.
    have hcalm : Calm (items.flatMap lexemes ++ .mark closing :: rest) := by
      cases items with
      | nil => exact calm_mark hclosing rest
      | cons next items =>
        rw [List.flatMap_cons, List.append_assoc]
        exact (hstart next).calm _
    have hfirst : Unmarked (lexemes item ++ (items.flatMap lexemes ++ .mark closing :: rest)) := by
      obtain ⟨first, after, heq, hmark⟩ := hstart item
      exact ⟨first, _, by rw [heq, List.cons_append], hmark⟩
    have hrest := ih (fun other hother => hitem other (List.mem_cons_of_mem item hother))
      (Nat.lt_of_succ_lt_succ hcount)
    rw [List.flatMap_cons, List.append_assoc, until?_cons count hfirst,
      hitem item List.mem_cons_self _ hcalm, Option.bind_some, hrest, Option.map_some]

/-- Each item takes a lexeme. -/
theorem length_le_flatMap (hlexemes : ∀ item, lexemes item ≠ []) (items : List α) :
    items.length ≤ (items.flatMap lexemes).length := by
  induction items with
  | nil => exact Nat.le_refl 0
  | cons item items ih =>
    have hpos := List.length_pos_iff.2 (hlexemes item)
    rw [List.flatMap_cons, List.length_append, List.length_cons]
    omega

/-- So there is enough to count down from. -/
theorem until?_lexemes_length (items : List α) (hclosing : closing ∉ ['!', '(', ':'])
    (hstart : ∀ item, Unmarked (lexemes item))
    (hitem : ∀ item ∈ items, ∀ rest, Calm rest → item? (lexemes item ++ rest) = some (item, rest))
    (rest : List Lexeme) :
    let ls := items.flatMap lexemes ++ .mark closing :: rest
    until? item? closing ls.length ls = some (items, rest) := by
  have hle := length_le_flatMap (fun item => (hstart item).ne_nil) items
  refine until?_lexemes hclosing hstart hitem ?_ rest
  rw [List.length_append, List.length_cons]
  omega

end Until

theorem parameter?_lexemes (p : Parameter) {rest : List Lexeme} (hrest : Calm rest) :
    parameter? (p.lexemes ++ rest) = some (p, rest) := by
  rw [Parameter.lexemes, List.cons_append, List.cons_append, parameter?, skip?, if_pos rfl]
  simp only [Option.bind_eq_bind, Option.bind_some, written?_lexemes p.type hrest, Option.pure_def]

theorem unmarked_parameter (p : Parameter) : Unmarked p.lexemes := ⟨_, _, rfl, by simp⟩

theorem parameters?_lexemes (ps : List Parameter) {rest : List Lexeme}
    (hrest : skip? '(' rest = none) :
    parameters? (parametersLexemes ps ++ rest) = some (ps, rest) := by
  by_cases hps : ps = []
  · rw [parametersLexemes, if_pos hps, List.nil_append, parameters?, hrest, hps]
  · have hclosing : ')' ∉ ['!', '(', ':'] := by decide
    have hread := until?_lexemes_length ps hclosing unmarked_parameter
      (fun p _ after hafter => parameter?_lexemes p hafter) rest
    rw [parametersLexemes, if_neg hps, List.cons_append, List.append_assoc, List.singleton_append,
      parameters?, skip?, if_pos rfl]
    have hfound : !ps.isEmpty := by simpa using hps
    simp only [hread, Option.filter, hfound, if_true]

theorem type?_lexemes (type : Option Written) {rest : List Lexeme} (hrest : Calm rest) :
    type? (typeLexemes type ++ rest) = some (type, rest) := by
  cases type with
  | none => rw [typeLexemes, List.nil_append, type?, hrest ':' (by decide)]
  | some type =>
    rw [typeLexemes, List.cons_append, type?, skip?, if_pos rfl]
    simp only [written?_lexemes type hrest, Option.map_some]

theorem description?_lexemes (description : Option String) (name : String) (rest : List Lexeme) :
    description? (descriptionLexemes description ++ .name name :: rest) =
      (description, .name name :: rest) := by
  cases description <;> rfl

theorem member?_lexemes (m : Member) {rest : List Lexeme} (hrest : Calm rest) :
    member? (m.lexemes ++ rest) = some (m, rest) := by
  have hafter : skip? '(' (typeLexemes m.type ++ rest) = none := by
    cases m.type with
    | none => exact hrest '(' (by decide)
    | some type => rfl
  unfold member? Member.lexemes
  rw [List.append_assoc, List.cons_append, description?_lexemes, List.append_assoc]
  simp only [parameters?_lexemes m.parameters hafter, Option.bind_eq_bind, Option.bind_some,
    type?_lexemes m.type hrest, Option.pure_def]

theorem unmarked_member (m : Member) : Unmarked m.lexemes := by
  unfold Member.lexemes
  cases m.description with
  | none => exact ⟨_, _, rfl, by simp⟩
  | some text => exact ⟨_, _, rfl, by simp⟩

theorem heading?_lexemes (heading : Heading) (rest : List Lexeme) :
    heading? (heading.lexemes ++ rest) = some (heading, rest) := by
  cases heading <;> rfl

/-- A definition whose block may have its members. -/
def Definition.Proper (d : Definition) : Prop := d.members.all d.heading.takes = true

theorem definition?_lexemes {d : Definition} (hd : d.Proper) (rest : List Lexeme) :
    definition? (d.lexemes ++ rest) = some (d, rest) := by
  obtain ⟨name, after, hname⟩ : ∃ name after, d.heading.lexemes = .name name :: after := by
    cases d.heading <;> exact ⟨_, _, rfl⟩
  have hdescription (ls : List Lexeme) :
      description? (descriptionLexemes d.description ++ (d.heading.lexemes ++ ls)) =
        (d.description, d.heading.lexemes ++ ls) := by
    rw [hname, List.cons_append, description?_lexemes]
  have hclosing : '\x7d' ∉ ['!', '(', ':'] := by decide
  have hmembers := until?_lexemes_length d.members hclosing unmarked_member
    (fun m _ after hafter => member?_lexemes m hafter) rest
  unfold definition? Definition.lexemes
  rw [List.append_assoc, List.append_assoc, hdescription, List.cons_append, List.append_assoc,
    List.singleton_append]
  simp only [heading?_lexemes, Option.bind_eq_bind, Option.bind_some, skip?, if_true, hmembers]
  exact if_pos hd

theorem lexemes_ne_nil (d : Definition) : d.lexemes ≠ [] := by simp [Definition.lexemes]

/-- Definitions are read back from their lexemes. -/
theorem definitions?_lexemes {defs : List Definition} (hdefs : ∀ d ∈ defs, d.Proper) {count : Nat}
    (hcount : defs.length ≤ count) :
    definitions? count (defs.flatMap Definition.lexemes) = some defs := by
  induction defs generalizing count with
  | nil => cases count <;> rfl
  | cons d defs ih =>
    obtain ⟨count, rfl⟩ := Nat.exists_eq_succ_of_ne_zero (Nat.ne_zero_of_lt hcount)
    have hrest := ih (fun other hother => hdefs other (List.mem_cons_of_mem d hother))
      (Nat.le_of_succ_le_succ hcount)
    rw [List.flatMap_cons, definitions?]
    · simp only [definition?_lexemes (hdefs d List.mem_cons_self), Option.bind_eq_bind,
        Option.bind_some, hrest, Option.pure_def]
    · exact fun hnil => lexemes_ne_nil d (List.append_eq_nil_iff.1 hnil).1

/-- A text that is read as the lexemes of definitions is a document of these definitions. -/
theorem Reads.read_eq {returns fits : Bool} {text : String} {defs : List Definition}
    (h : Reads returns fits text (defs.flatMap Definition.lexemes))
    (hdefs : ∀ d ∈ defs, d.Proper) :
    read returns text = if fits then some defs else none := by
  have hlength := length_le_flatMap lexemes_ne_nil defs
  rw [read, h.lex_eq]
  cases fits with
  | false => rfl
  | true => exact definitions?_lexemes hdefs hlength

end CatalogGraph.Syntax
