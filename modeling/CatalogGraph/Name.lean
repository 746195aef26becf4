import CatalogGraph.Text.Digits

/-!
# Names that fit the schema grammar

A name of the schema is an ASCII letter or underscore followed by ASCII letters, digits and
underscores. Engine names hold anything, so a name outside that grammar is rewritten: every
character that may not stand where it stands becomes an escape token, an underscore, the letter
`U`, the code point in at least four capital hexadecimal digits, and an underscore.

```
order-lines   becomes   order_U002D_lines
2024_sales    becomes   _U0032_024_sales
```

* `sanitize` rewrites a name. A name inside the grammar is left alone, also where it holds the
  text of a token. In a name that is rewritten, an underscore that could open a token is escaped.
* `restore` reads every token back and leaves all other text as it is.
-/

namespace CatalogGraph.Name

open Text

/-! ## The grammar -/

/-- A character that may open a name. -/
def isStart (c : Char) : Bool := c.isAlpha || c == '_'

/-- A character that may stand later in a name. -/
def isRest (c : Char) : Bool := c.isAlphanum || c == '_'

/-- A name of the schema, as characters. -/
def isValidChars : List Char → Bool
  | [] => false
  | c :: cs => isStart c && cs.all isRest

/-- Whether the text is a name of the schema. -/
def isValid (name : String) : Bool := isValidChars name.toList

/-! ## Writing tokens -/

/-- The escape token of a character. -/
def escape (c : Char) : List Char :=
  '_' :: 'U' :: hexDigits hexCapital (max 4 (hexWidth c.toNat)) c.toNat ++ ['_']

/-- Whether the characters after an underscore could make it the start of a token. -/
def opensToken : List Char → Bool
  | 'U' :: a :: b :: c :: d :: _ => isHexDigit a && isHexDigit b && isHexDigit c && isHexDigit d
  | _ => false

/-- Whether a character of a rewritten name is kept; `rest` is the text after it. -/
def isKept (first : Bool) (c : Char) (rest : List Char) : Bool :=
  if c = '_' then !opensToken rest else if first then isStart c else isRest c

/-- The name with every character that is not kept replaced by its token. -/
def escapeFrom (first : Bool) : List Char → List Char
  | [] => []
  | c :: rest => (if isKept first c rest then [c] else escape c) ++ escapeFrom false rest

/-- The characters of the rewritten name. -/
def sanitizeChars (cs : List Char) : List Char :=
  if isValidChars cs then cs else escapeFrom true cs

/-- The name itself when it fits the grammar, and the rewritten name otherwise. -/
def sanitize (name : String) : String := String.ofList (sanitizeChars name.toList)

/-! ## Reading tokens -/

/-- The digits of the token that the text starts with, and the text after it. -/
def token? : List Char → Option (List Char × List Char)
  | '_' :: 'U' :: cs =>
    match cs.dropWhile isHexDigit with
    | '_' :: rest =>
      let digits := cs.takeWhile isHexDigit
      if 4 ≤ digits.length ∧ digits.length ≤ 6 then some (digits, rest) else none
    | _ => none
  | _ => none

theorem length_of_token? {cs digits rest : List Char} (h : token? cs = some (digits, rest)) :
    rest.length < cs.length := by
  unfold token? at h
  split at h
  · rename_i tail
    split at h
    · rename_i after hdrop
      have hle : (tail.dropWhile isHexDigit).length ≤ tail.length :=
        (List.dropWhile_suffix isHexDigit).length_le
      rw [hdrop] at hle
      simp only at h
      split at h
      · simp only [Option.some.injEq, Prod.mk.injEq] at h
        obtain ⟨_, rfl⟩ := h
        simp only [List.length_cons] at hle ⊢
        omega
      · simp at h
    · simp at h
  · simp at h

/-- The character that a token stands for, or the text of the token where its number is no
character. -/
def decodeToken (digits : List Char) : List Char :=
  let n := readHex digits
  if n.isValidChar then [Char.ofNat n] else '_' :: 'U' :: digits ++ ['_']

/-- The text with its tokens decoded, from left to right. -/
def restoreChars (cs : List Char) : List Char :=
  match h : token? cs with
  | some (digits, rest) =>
    have := length_of_token? h
    decodeToken digits ++ restoreChars rest
  | none =>
    match cs with
    | [] => []
    | c :: rest => c :: restoreChars rest
termination_by cs.length

/-- The name that a rewritten name stands for. -/
def restore (name : String) : String := String.ofList (restoreChars name.toList)

end CatalogGraph.Name
