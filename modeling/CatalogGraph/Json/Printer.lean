import CatalogGraph.Json.Value
import CatalogGraph.Number.Layout

/-!
# JSON texts

The two written forms of a value: the compact one without any space, and the indented one with two
spaces for each level. In strings only the quote, the backslash and the control characters below
the space are escaped.
-/

namespace CatalogGraph.Json

open Text

/-! ## Strings -/

/-- A character of a string as it is written. -/
def escapeChar (c : Char) : List Char :=
  if c = '"' then ['\\', '"']
  else if c = '\\' then ['\\', '\\']
  else if c = '\x08' then ['\\', 'b']
  else if c = '\x0C' then ['\\', 'f']
  else if c = '\n' then ['\\', 'n']
  else if c = '\r' then ['\\', 'r']
  else if c = '\t' then ['\\', 't']
  else if c.toNat < 0x20 then '\\' :: 'u' :: hexDigits hexSmall 4 c.toNat
  else [c]

/-- The characters of a string between quotes. -/
def quoted (cs : List Char) : List Char := '"' :: cs.flatMap escapeChar ++ ['"']

/-! ## The compact form -/

mutual

/-- The compact form of a value. -/
def compactChars : Json → List Char
  | .null => ['n', 'u', 'l', 'l']
  | .bool true => ['t', 'r', 'u', 'e']
  | .bool false => ['f', 'a', 'l', 's', 'e']
  | .int n => (signedDecimal n).toList
  | .float x => x.json.toList
  | .string s => quoted s.toList
  | .array items => '[' :: compactItems items ++ [']']
  | .object members => '\x7b' :: compactMembers members ++ ['\x7d']

/-- The compact forms of the items, with commas between them. -/
def compactItems : List Json → List Char
  | [] => []
  | [j] => compactChars j
  | j :: rest => compactChars j ++ ',' :: compactItems rest

/-- The compact forms of the members, with commas between them. -/
def compactMembers : List (String × Json) → List Char
  | [] => []
  | [(key, j)] => quoted key.toList ++ ':' :: compactChars j
  | (key, j) :: rest => quoted key.toList ++ ':' :: compactChars j ++ ',' :: compactMembers rest

end

/-- The compact text of a value. -/
def compact (j : Json) : String := String.ofList (compactChars j)

/-! ## The indented form -/

/-- A new line at a level of nesting. -/
def newLine (level : Nat) : List Char := '\n' :: List.replicate (2 * level) ' '

mutual

/-- The indented form of a value that stands at a level of nesting. -/
def prettyChars (level : Nat) : Json → List Char
  | .array [] => ['[', ']']
  | .object [] => ['\x7b', '\x7d']
  | .array (j :: rest) =>
    '[' :: newLine (level + 1) ++ prettyChars (level + 1) j ++ prettyItems level rest ++
      newLine level ++ [']']
  | .object ((key, j) :: rest) =>
    '\x7b' :: newLine (level + 1) ++ quoted key.toList ++ ':' :: ' ' :: prettyChars (level + 1) j ++
      prettyMembers level rest ++ newLine level ++ ['\x7d']
  | .null => compactChars .null
  | .bool b => compactChars (.bool b)
  | .int n => compactChars (.int n)
  | .float x => compactChars (.float x)
  | .string s => compactChars (.string s)

/-- The items after the first one, each on its line. -/
def prettyItems (level : Nat) : List Json → List Char
  | [] => []
  | j :: rest =>
    ',' :: newLine (level + 1) ++ prettyChars (level + 1) j ++ prettyItems level rest

/-- The members after the first one, each on its line. -/
def prettyMembers (level : Nat) : List (String × Json) → List Char
  | [] => []
  | (key, j) :: rest =>
    ',' :: newLine (level + 1) ++ quoted key.toList ++ ':' :: ' ' :: prettyChars (level + 1) j ++
      prettyMembers level rest

end

/-- The indented text of a value. -/
def pretty (j : Json) : String := String.ofList (prettyChars 0 j)

end CatalogGraph.Json
