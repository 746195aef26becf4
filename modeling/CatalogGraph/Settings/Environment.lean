import CatalogGraph.Dictionary
import CatalogGraph.Text.Alphanumeric

/-!
# Environment variables

Settings may refer to environment variables: a dollar sign and the name between braces, or a dollar
sign and a name of letters, digits and underscores, as long as it gets. A dollar sign without a name
stands for itself. The text is read once; values are put in as they are.
-/

namespace CatalogGraph

open Text

/-- The values of the variables. -/
abbrev Environment := Dictionary String

namespace Environment

/-- A character of a name without braces. -/
def isNameChar (c : Char) : Bool := isAlphanumeric c || c == '_'

/-- The text after the closing brace that it starts with, which may be missing. -/
def afterBrace : List Char → List Char
  | '\x7d' :: rest => rest
  | rest => rest

/-- The name after a dollar sign, and the text after the reference. -/
def reference (cs : List Char) : List Char × List Char :=
  match cs with
  | '\x7b' :: rest => (rest.takeWhile (· ≠ '\x7d'), afterBrace (rest.dropWhile (· ≠ '\x7d')))
  | _ => (cs.takeWhile isNameChar, cs.dropWhile isNameChar)

theorem length_afterBrace_le (cs : List Char) : (afterBrace cs).length ≤ cs.length := by
  unfold afterBrace
  split
  · simp
  · exact Nat.le_refl _

theorem length_reference_le (cs : List Char) : (reference cs).2.length ≤ cs.length := by
  unfold reference
  split
  · rename_i rest
    have hdrop := (List.dropWhile_suffix (fun c => decide (c ≠ '\x7d')) (l := rest)).length_le
    have hbrace := length_afterBrace_le (rest.dropWhile fun c => decide (c ≠ '\x7d'))
    simp only [List.length_cons]
    omega
  · exact (List.dropWhile_suffix isNameChar).length_le

/-- The text with the values of the variables, or the name of the first variable without one. -/
def expandChars (env : Environment) : List Char → Except String (List Char)
  | [] => .ok []
  | c :: rest =>
    if c ≠ '$' then (expandChars env rest).map (c :: ·)
    else
      have := length_reference_le rest
      match (reference rest).1 with
      | [] => (expandChars env (reference rest).2).map ('$' :: ·)
      | name =>
        match Dictionary.find? env (String.ofList name) with
        | none => .error (String.ofList name)
        | some value => (expandChars env (reference rest).2).map (value.toList ++ ·)
termination_by cs => cs.length
decreasing_by all_goals simp only [List.length_cons]; omega

/-- The names of the variables that the text refers to. -/
def referredNames : List Char → List String
  | [] => []
  | c :: rest =>
    if c ≠ '$' then referredNames rest
    else
      have := length_reference_le rest
      match (reference rest).1 with
      | [] => referredNames (reference rest).2
      | name => String.ofList name :: referredNames (reference rest).2
termination_by cs => cs.length
decreasing_by all_goals simp only [List.length_cons]; omega

/-- The text with the values of the variables. -/
def expand (env : Environment) (s : String) : Except String String :=
  (expandChars env s.toList).map String.ofList

end Environment

end CatalogGraph
