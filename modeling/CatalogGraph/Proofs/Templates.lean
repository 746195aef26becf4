import CatalogGraph.Proofs.Dictionary
import CatalogGraph.Settings.Loading

/-!
# Texts with references to variables

A text that refers to variables is put together of parts: plain text, references with and without
braces, and dollar signs that stand for themselves. Expanding the text puts the value of each
variable in the place of its reference and goes on behind it, so a value is never looked at again
(`expand_text`). If a variable has no value, the first such variable of the text is named.

A part must not run on into the text after it. This concerns a name without braces, which is as long
as it gets, and a single dollar sign, which must not become a reference.
-/

namespace CatalogGraph.Environment

open Text

/-- A part of a text that refers to variables. -/
inductive Part where
  | plain (s : String)
  | braced (name : String)
  | bare (name : String)
  /-- A dollar sign that stands for itself. -/
  | dollar

namespace Part

/-- The part as it is written. -/
def text : Part → String
  | .plain s => s
  | .braced name => "$\x7b" ++ name ++ "\x7d"
  | .bare name => "$" ++ name
  | .dollar => "$"

/-- The variable that the part refers to. -/
def name? : Part → Option String
  | .braced name | .bare name => some name
  | .plain _ | .dollar => none

/-- What stands for the part in the expanded text, where every variable has a value. -/
def value (env : Environment) : Part → String
  | .braced name | .bare name => (Dictionary.find? env name).getD ""
  | part => part.text

/-- The part is well-formed and does not run on into the text after it. -/
def EndsBefore (rest : List Char) : Part → Prop
  | .plain s => '$' ∉ s.toList
  | .braced name => name ≠ "" ∧ '\x7d' ∉ name.toList
  | .bare name => name ≠ "" ∧ (∀ c ∈ name.toList, isNameChar c = true) ∧
      ∀ c, rest.head? = some c → isNameChar c = false
  | .dollar => ∀ c, rest.head? = some c → c ≠ '\x7b' ∧ isNameChar c = false

instance (rest : List Char) : (part : Part) → Decidable (part.EndsBefore rest)
  | .plain s => inferInstanceAs (Decidable ('$' ∉ s.toList))
  | .braced name => inferInstanceAs (Decidable (name ≠ "" ∧ '\x7d' ∉ name.toList))
  | .bare name =>
    decidable_of_iff (name ≠ "" ∧ name.toList.all isNameChar = true ∧
      rest.head?.all (fun c => !isNameChar c) = true) (by simp [EndsBefore, Option.all_eq_true])
  | .dollar =>
    decidable_of_iff (rest.head?.all (fun c => c != '\x7b' && !isNameChar c) = true)
      (by simp [EndsBefore, Option.all_eq_true])

end Part

/-- The text that the parts make. -/
def textOf (parts : List Part) : String := String.join (parts.map Part.text)

/-- Every part ends where the next one begins. -/
def Separate : List Part → Prop
  | [] => True
  | part :: rest => part.EndsBefore (textOf rest).toList ∧ Separate rest

instance decidableSeparate : (parts : List Part) → Decidable (Separate parts)
  | [] => inferInstanceAs (Decidable True)
  | part :: rest =>
    have := decidableSeparate rest
    inferInstanceAs (Decidable (part.EndsBefore (textOf rest).toList ∧ Separate rest))

/-- The first variable without a value that the parts refer to. -/
def firstUnset? (env : Environment) (parts : List Part) : Option String :=
  (parts.filterMap Part.name?).find? fun name => (Dictionary.find? env name).isNone

/-! ## References -/

theorem reference_braced {name : List Char} (h : '\x7d' ∉ name) (rest : List Char) :
    reference ('\x7b' :: name ++ '\x7d' :: rest) = (name, rest) := by
  have hname : ∀ c ∈ name, decide (c ≠ '\x7d') = true := by
    intro c hc
    rw [decide_eq_true_eq]
    rintro rfl
    exact h hc
  simp only [List.cons_append, reference]
  rw [List.takeWhile_append_of_pos hname, List.dropWhile_append_of_pos hname,
    List.takeWhile_cons_of_neg (by simp), List.dropWhile_cons_of_neg (by simp), List.append_nil]
  rfl

/-- Where no brace comes first, the reference is as long as its name gets. -/
theorem reference_of_head_ne {cs : List Char} (h : cs.head? ≠ some '\x7b') :
    reference cs = (cs.takeWhile isNameChar, cs.dropWhile isNameChar) := by
  unfold reference
  split
  · exact absurd rfl h
  · rfl

theorem takeWhile_of_head {cs : List Char} (h : ∀ c, cs.head? = some c → isNameChar c = false) :
    cs.takeWhile isNameChar = [] ∧ cs.dropWhile isNameChar = cs := by
  cases cs with
  | nil => exact ⟨rfl, rfl⟩
  | cons c rest =>
    have hc : ¬ isNameChar c = true := by simp [h c rfl]
    exact ⟨List.takeWhile_cons_of_neg hc, List.dropWhile_cons_of_neg hc⟩

theorem reference_bare {name rest : List Char} (hne : name ≠ [])
    (hname : ∀ c ∈ name, isNameChar c = true)
    (hrest : ∀ c, rest.head? = some c → isNameChar c = false) :
    reference (name ++ rest) = (name, rest) := by
  obtain ⟨c, more, rfl⟩ := List.exists_cons_of_ne_nil hne
  have hbrace : (c :: more ++ rest).head? ≠ some '\x7b' := by
    rintro ⟨⟩
    exact absurd (hname '\x7b' List.mem_cons_self) (by decide)
  obtain ⟨htake, hdrop⟩ := takeWhile_of_head hrest
  rw [reference_of_head_ne hbrace, List.takeWhile_append_of_pos hname,
    List.dropWhile_append_of_pos hname, htake, hdrop, List.append_nil]

theorem reference_none {rest : List Char}
    (h : ∀ c, rest.head? = some c → c ≠ '\x7b' ∧ isNameChar c = false) :
    reference rest = ([], rest) := by
  have hbrace : rest.head? ≠ some '\x7b' := fun hhead => (h _ hhead).1 rfl
  obtain ⟨htake, hdrop⟩ := takeWhile_of_head fun c hc => (h c hc).2
  rw [reference_of_head_ne hbrace, htake, hdrop]

/-! ## Expanding one part -/

variable {env : Environment}

theorem expandChars_nil : expandChars env [] = .ok [] := by
  rw [expandChars]

theorem expandChars_plain {cs : List Char} (h : '$' ∉ cs) (rest : List Char) :
    expandChars env (cs ++ rest) = (expandChars env rest).map (cs ++ ·) := by
  induction cs with
  | nil =>
    rw [List.nil_append]
    cases expandChars env rest <;> rfl
  | cons c cs ih =>
    have hc : c ≠ '$' := by
      rintro rfl
      exact h List.mem_cons_self
    rw [List.cons_append, expandChars, if_pos hc, ih fun hcs => h (List.mem_cons_of_mem _ hcs)]
    cases expandChars env rest <;> rfl

/-- A dollar sign without a name after it stands for itself. -/
theorem expandChars_dollar {rest : List Char} (h : reference rest = ([], rest)) :
    expandChars env ('$' :: rest) = (expandChars env rest).map ('$' :: ·) := by
  rw [expandChars, if_neg (by simp), h]

/-- The value of a variable before a text that has been expanded. -/
def putBefore (env : Environment) (name : String) (expanded : Except String (List Char)) :
    Except String (List Char) :=
  match Dictionary.find? env name with
  | none => .error name
  | some value => expanded.map (value.toList ++ ·)

/-- The value of a variable is put in, and what comes after the reference is expanded. -/
theorem expandChars_reference {cs name rest : List Char} (hne : name ≠ [])
    (h : reference cs = (name, rest)) :
    expandChars env ('$' :: cs) = putBefore env (String.ofList name) (expandChars env rest) := by
  obtain ⟨c, more, rfl⟩ := List.exists_cons_of_ne_nil hne
  rw [expandChars, if_neg (by simp), h]
  rfl

/-! ## Expanding all parts -/

/-- What comes of the parts, each of which is expanded on its own. -/
def outcome (env : Environment) (parts : List Part) : Except String (List Char) :=
  match firstUnset? env parts with
  | some name => .error name
  | none => .ok (parts.flatMap fun part => (part.value env).toList)

theorem outcome_of_none {part : Part} (h : part.name? = none) (parts : List Part) :
    outcome env (part :: parts) = (outcome env parts).map ((part.value env).toList ++ ·) := by
  have hunset : firstUnset? env (part :: parts) = firstUnset? env parts := by
    rw [firstUnset?, List.filterMap_cons_none h]
    rfl
  unfold outcome
  rw [hunset]
  cases firstUnset? env parts <;> rfl

theorem outcome_of_some {part : Part} {name : String} (h : part.name? = some name)
    (parts : List Part) :
    outcome env (part :: parts) = putBefore env name (outcome env parts) := by
  have hvalue : part.value env = (Dictionary.find? env name).getD "" := by
    cases part <;> cases h <;> rfl
  have hunset : firstUnset? env (part :: parts) =
      if (Dictionary.find? env name).isNone then some name else firstUnset? env parts := by
    rw [firstUnset?, List.filterMap_cons_some h, List.find?_cons]
    cases (Dictionary.find? env name).isNone <;> rfl
  unfold outcome putBefore
  rw [hunset, List.flatMap_cons, hvalue]
  cases Dictionary.find? env name with
  | none => rfl
  | some value => cases firstUnset? env parts <;> rfl

theorem toList_textOf (parts : List Part) :
    (textOf parts).toList = parts.flatMap fun part => part.text.toList := by
  unfold textOf
  induction parts with
  | nil => rfl
  | cons part parts ih => simp [String.join_cons, ih]

/-- Each part is expanded on its own, whatever the values of the parts before it look like. -/
theorem expandChars_textOf {parts : List Part} (h : Separate parts) :
    expandChars env (textOf parts).toList = outcome env parts := by
  induction parts with
  | nil => exact expandChars_nil
  | cons part parts ih =>
    obtain ⟨hpart, hparts⟩ := h
    have hrest := ih hparts
    have htext : (textOf (part :: parts)).toList = part.text.toList ++ (textOf parts).toList := by
      rw [toList_textOf, List.flatMap_cons, ← toList_textOf]
    rw [htext]
    cases part with
    | plain s =>
      rw [outcome_of_none rfl, ← hrest]
      exact expandChars_plain hpart _
    | dollar =>
      have htextOf : Part.dollar.text.toList = ['$'] := by decide
      have hvalue : (Part.dollar.value env).toList = ['$'] := htextOf
      rw [outcome_of_none rfl, ← hrest, htextOf]
      simp only [hvalue, List.singleton_append]
      exact expandChars_dollar (reference_none hpart)
    | braced name =>
      obtain ⟨hne, hname⟩ := hpart
      have hreference := reference_braced hname (textOf parts).toList
      have happend : (Part.braced name).text.toList ++ (textOf parts).toList =
          '$' :: ('\x7b' :: name.toList ++ '\x7d' :: (textOf parts).toList) := by
        simp [Part.text]
      rw [outcome_of_some rfl, ← hrest, happend,
        expandChars_reference (by simpa using hne) hreference, String.ofList_toList]
    | bare name =>
      obtain ⟨hne, hname, hnext⟩ := hpart
      have hlist : name.toList ≠ [] := by simpa using hne
      have happend : (Part.bare name).text.toList ++ (textOf parts).toList =
          '$' :: (name.toList ++ (textOf parts).toList) := by
        simp [Part.text]
      rw [outcome_of_some rfl, ← hrest, happend,
        expandChars_reference hlist (reference_bare hlist hname hnext), String.ofList_toList]

/-- A text made of separate parts is expanded to their values, put together; if there are variables
without a value, the first of them in the text is the fault. -/
theorem expand_text (env : Environment) {parts : List Part} (h : Separate parts) :
    Settings.expand env (textOf parts) =
      match firstUnset? env parts with
      | some name => .error (.missingVariable name)
      | none => .ok (String.join (parts.map (Part.value env))) := by
  have hjoin : String.ofList (parts.flatMap fun part => (part.value env).toList) =
      String.join (parts.map (Part.value env)) := by
    apply String.toList_injective
    rw [String.toList_ofList]
    clear h
    induction parts with
    | nil => rfl
    | cons part parts ih => simp [String.join_cons, ih]
  unfold Settings.expand expand
  rw [expandChars_textOf h, outcome]
  cases firstUnset? env parts with
  | none => exact congrArg Except.ok hjoin
  | some name => rfl

/-- References without anything between them, of which one is a single dollar sign before another
reference, and a value that looks like references. -/
theorem expand_text_adjacent :
    let env : Environment := [("A", "$B$\x7bB\x7d"), ("B", "é"), ("a b", "")]
    let parts : List Part :=
      [.bare "A", .braced "B", .braced "a b", .dollar, .bare "B", .plain "-", .bare "A",
        .plain " ", .dollar]
    textOf parts = "$A$\x7bB\x7d$\x7ba b\x7d$$B-$A $" ∧ Separate parts ∧
      Settings.expand env (textOf parts) = .ok "$B$\x7bB\x7dé$é-$B$\x7bB\x7d $" ∧
      Settings.expand env.tail (textOf parts) = .error (.missingVariable "A") := by
  intro env parts
  have hseparate : Separate parts := by decide +kernel
  have hset : firstUnset? env parts = none := by decide +kernel
  have hunset : firstUnset? env.tail parts = some "A" := by decide +kernel
  refine ⟨by decide +kernel, hseparate, ?_, ?_⟩
  · rw [expand_text env hseparate, hset]
    exact congrArg Except.ok (by decide +kernel)
  · rw [expand_text env.tail hseparate, hunset]

end CatalogGraph.Environment
