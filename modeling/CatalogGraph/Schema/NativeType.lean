import CatalogGraph.Schema.OutputType
import CatalogGraph.Text.Blank
import CatalogGraph.Text.Case

/-!
# Native column types

The engine names the type of a column by a text such as `bigint`, `array(varchar)` or
`map(varchar, double)`. Case and surrounding white space do not matter. An array is a list of its
element type, a map is a list of key and value pairs, and every other type is a scalar. Whole
numbers of sixty-four bits, decimals and all unknown types are texts.
-/

namespace CatalogGraph.NativeType

open Text

/-- The scalar of a type text without parameters, in small letters. -/
def scalar (native : String) : ScalarKind :=
  if native = "boolean" then .boolean
  else if ["tinyint", "smallint", "integer", "int"].contains native then .int
  else if ["real", "double", "float"].contains native then .float
  else .string

/-- The characters before the last occurrence of a character; all of them if there is none. -/
def beforeLast (mark : Char) (cs : List Char) : List Char :=
  if cs.contains mark then ((cs.reverse.dropWhile (· ≠ mark)).drop 1).reverse else cs

/-- The characters after the first occurrence of a character; none if there is none. -/
def afterFirst (mark : Char) (cs : List Char) : List Char := (cs.dropWhile (· ≠ mark)).drop 1

/-- The text between the first opening and the last closing parenthesis. -/
def parameters (cs : List Char) : List Char :=
  trimChars (beforeLast ')' (afterFirst '(' cs))

/-- The text of a type without white space around it and in small letters. -/
def normal (cs : List Char) : List Char := lowerFrom [] (trimChars cs)

/-! ## Parameters are nested less deep -/

theorem trimChars_sublist (cs : List Char) : (trimChars cs).Sublist cs := by
  have hend (ds : List Char) : (trimEndChars ds).Sublist ds := by
    have h := List.reverse_sublist.2 (List.dropWhile_sublist (l := ds.reverse) isBlank)
    rwa [List.reverse_reverse] at h
  exact (hend _).trans (List.dropWhile_sublist isBlank)

theorem beforeLast_sublist (mark : Char) (cs : List Char) :
    (beforeLast mark cs).Sublist cs := by
  unfold beforeLast
  split
  · have h := List.reverse_sublist.2
      ((List.drop_sublist 1 _).trans (List.dropWhile_sublist (l := cs.reverse) (· ≠ mark)))
    rwa [List.reverse_reverse] at h
  · exact List.Sublist.refl cs

theorem count_normal_le (cs : List Char) : (normal cs).count '(' ≤ cs.count '(' := by
  rw [normal, count_lowerFrom]
  exact (trimChars_sublist cs).count_le '('

theorem count_afterFirst {cs : List Char} (h : '(' ∈ cs) :
    (afterFirst '(' cs).count '(' + 1 = cs.count '(' := by
  induction cs with
  | nil => simp at h
  | cons c rest ih =>
    by_cases hc : c = '('
    · subst hc
      simp [afterFirst]
    · have hrest : '(' ∈ rest := by
        rcases List.mem_cons.1 h with e | e
        · exact absurd e.symm hc
        · exact e
      have hstep : afterFirst '(' (c :: rest) = afterFirst '(' rest := by
        simp [afterFirst, hc]
      rw [hstep, ih hrest, List.count_cons_of_ne hc]

theorem count_parameters {cs : List Char} (h : '(' ∈ normal cs) :
    (parameters (normal cs)).count '(' < cs.count '(' := by
  have hparams : (parameters (normal cs)).count '(' ≤ (afterFirst '(' (normal cs)).count '(' :=
    ((trimChars_sublist _).trans (beforeLast_sublist _ _)).count_le '('
  have hfirst := count_afterFirst h
  have hnormal := count_normal_le cs
  omega

/-! ## The mapping -/

/-- How an array type starts. -/
def arrayHead : List Char := ['a', 'r', 'r', 'a', 'y', '(']

/-- How a map type starts. -/
def mapHead : List Char := ['m', 'a', 'p', '(']

/-- How a decimal type starts. -/
def decimalHead : List Char := ['d', 'e', 'c', 'i', 'm', 'a', 'l', '(']

theorem mem_of_arrayHead {cs : List Char} (h : arrayHead.isPrefixOf cs = true) : '(' ∈ cs :=
  (List.isPrefixOf_iff_prefix.1 h).subset (by decide)

/-- The output type of a column type, as characters. -/
def outputOfChars (cs : List Char) : OutputType :=
  let native := normal cs
  if h : arrayHead.isPrefixOf native = true then
    have := count_parameters (mem_of_arrayHead h)
    .list (outputOfChars (parameters native))
  else if mapHead.isPrefixOf native then .list (.object keyValueName)
  else if decimalHead.isPrefixOf native then .scalar .string
  else .scalar (scalar (String.ofList native))
termination_by cs.count '('

/-- The output type of a column type. -/
def output (native : String) : OutputType := outputOfChars native.toList

end CatalogGraph.NativeType
