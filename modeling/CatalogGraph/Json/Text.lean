import CatalogGraph.Json.Number

/-!
# Reading JSON texts

A JSON text is read in two steps. `Draft.parse?` accepts exactly the texts of the JSON grammar and
keeps what is written: members in their order with repetitions, numbers as digits, and strings that
may hold half of a surrogate pair. `Draft.read?` then makes a value of a draft.

How a draft is read depends on the shape that is expected. Where anything is accepted, a later
member replaces an earlier one of the same name, numbers must not be beyond every double, and
strings must be text. Where a record is expected, a member that the record does not know is passed
over whatever it holds, and a known member that is given twice is refused. Arrays and objects may be
nested 127 deep, members that are passed over not counted.
-/

namespace CatalogGraph.Json

open Text

/-- A value as it is written. A string is missing where it holds half of a surrogate pair. -/
inductive Draft where
  | null
  | bool (b : Bool)
  | number (n : NumberText)
  | string (s : Option String)
  | array (items : List Draft)
  | object (members : List (Option String × Draft))
deriving Inhabited

namespace Draft

/-! ## Lexical parts -/

/-- The white space of JSON: space, tab, carriage return and line feed. -/
def isSpace (c : Char) : Bool := c == ' ' || c == '\t' || c == '\r' || c == '\n'

/-- The text after its white space. -/
def skip (cs : List Char) : List Char := cs.dropWhile isSpace

/-- A part of a string: a character, or the number of a `\u` escape. -/
inductive Piece where
  | char (c : Char)
  | unit (n : Nat)

/-- The character of an escape of two characters. -/
def shortEscape? (c : Char) : Option Char :=
  if c = '"' then some '"'
  else if c = '\\' then some '\\'
  else if c = '/' then some '/'
  else if c = 'b' then some '\x08'
  else if c = 'f' then some '\x0C'
  else if c = 'n' then some '\n'
  else if c = 'r' then some '\r'
  else if c = 't' then some '\t'
  else none

/-- The parts of a string up to its closing quote, and the text after that. -/
def pieces? : List Char → Option (List Piece × List Char)
  | [] => none
  | '"' :: rest => some ([], rest)
  | '\\' :: 'u' :: a :: b :: c :: d :: rest =>
    if [a, b, c, d].all isHexDigit then
      (pieces? rest).map fun (ps, after) => (.unit (readHex [a, b, c, d]) :: ps, after)
    else none
  | '\\' :: e :: rest =>
    match shortEscape? e with
    | some c => (pieces? rest).map fun (ps, after) => (.char c :: ps, after)
    | none => none
  | c :: rest =>
    if c.toNat < 0x20 then none
    else (pieces? rest).map fun (ps, after) => (.char c :: ps, after)

/-- The first half of a surrogate pair. -/
def isHighSurrogate (n : Nat) : Bool := 0xD800 ≤ n && n < 0xDC00

/-- The second half of a surrogate pair. -/
def isLowSurrogate (n : Nat) : Bool := 0xDC00 ≤ n && n < 0xE000

/-- The text of the parts, unless half of a surrogate pair stands alone. -/
def joinPieces? : List Piece → Option (List Char)
  | [] => some []
  | .char c :: rest => (joinPieces? rest).map (c :: ·)
  | .unit n :: .unit m :: rest =>
    if isHighSurrogate n then
      if isLowSurrogate m then
        (joinPieces? rest).map (Char.ofNat (0x10000 + (n - 0xD800) * 0x400 + (m - 0xDC00)) :: ·)
      else none
    else if isLowSurrogate n then none
    else (joinPieces? (.unit m :: rest)).map (Char.ofNat n :: ·)
  | .unit n :: rest =>
    if isHighSurrogate n || isLowSurrogate n then none
    else (joinPieces? rest).map (Char.ofNat n :: ·)

/-- A string after its opening quote. -/
def string? (cs : List Char) : Option (Option String × List Char) :=
  (pieces? cs).map fun (ps, rest) => ((joinPieces? ps).map String.ofList, rest)

/-- The fraction of a number: a point and at least one digit, or nothing. -/
def fraction? : List Char → Option (List Char × List Char)
  | '.' :: rest =>
    match rest.takeWhile Char.isDigit with
    | [] => none
    | digits => some (digits, rest.dropWhile Char.isDigit)
  | cs => some ([], cs)

/-- The digits of an exponent, of which there is at least one. -/
def exponentDigits? (negative : Bool) (cs : List Char) :
    Option (Option (Bool × List Char) × List Char) :=
  match cs.takeWhile Char.isDigit with
  | [] => none
  | digits => some (some (negative, digits), cs.dropWhile Char.isDigit)

/-- The exponent of a number: the letter, a sign or none, and digits; or nothing. -/
def exponent? : List Char → Option (Option (Bool × List Char) × List Char)
  | 'e' :: rest | 'E' :: rest =>
    match rest with
    | '+' :: more => exponentDigits? false more
    | '-' :: more => exponentDigits? true more
    | more => exponentDigits? false more
  | cs => some (none, cs)

/-- The integer part of a number: a zero alone, or digits that start with another one. -/
def whole? : List Char → Option (List Char × List Char)
  | [] => none
  | c :: rest =>
    if c = '0' then
      match rest with
      | d :: _ => if d.isDigit then none else some (['0'], rest)
      | [] => some (['0'], rest)
    else if c.isDigit then some (c :: rest.takeWhile Char.isDigit, rest.dropWhile Char.isDigit)
    else none

/-- A number after its sign. -/
def number? (negative : Bool) (cs : List Char) : Option (Draft × List Char) := do
  let (whole, cs) ← whole? cs
  let (fraction, cs) ← fraction? cs
  let (exponent, cs) ← exponent? cs
  return (.number ⟨negative, whole, fraction, exponent⟩, cs)

/-! ## The grammar -/

mutual

/-- A value at the start of the text, and the text after it. -/
def value? : Nat → List Char → Option (Draft × List Char)
  | 0, _ => none
  | fuel + 1, cs =>
    match skip cs with
    | 'n' :: 'u' :: 'l' :: 'l' :: rest => some (.null, rest)
    | 't' :: 'r' :: 'u' :: 'e' :: rest => some (.bool true, rest)
    | 'f' :: 'a' :: 'l' :: 's' :: 'e' :: rest => some (.bool false, rest)
    | '"' :: rest => (string? rest).map fun (s, after) => (.string s, after)
    | '[' :: rest =>
      match skip rest with
      | ']' :: after => some (.array [], after)
      | _ => (items? fuel rest).map fun (items, after) => (.array items, after)
    | '\x7b' :: rest =>
      match skip rest with
      | '\x7d' :: after => some (.object [], after)
      | _ => (members? fuel rest).map fun (members, after) => (.object members, after)
    | '-' :: rest => number? true rest
    | rest => number? false rest

/-- The items of an array up to its closing bracket, and the text after that. -/
def items? : Nat → List Char → Option (List Draft × List Char)
  | 0, _ => none
  | fuel + 1, cs =>
    match value? fuel cs with
    | none => none
    | some (item, rest) =>
      match skip rest with
      | ',' :: more => (items? fuel more).map fun (items, after) => (item :: items, after)
      | ']' :: after => some ([item], after)
      | _ => none

/-- The members of an object up to its closing brace, and the text after that. -/
def members? : Nat → List Char → Option (List (Option String × Draft) × List Char)
  | 0, _ => none
  | fuel + 1, cs =>
    match skip cs with
    | '"' :: rest =>
      match string? rest with
      | none => none
      | some (key, rest) =>
        match skip rest with
        | ':' :: rest =>
          match value? fuel rest with
          | none => none
          | some (item, rest) =>
            match skip rest with
            | ',' :: more =>
              (members? fuel more).map fun (members, after) => ((key, item) :: members, after)
            | '\x7d' :: after => some ([(key, item)], after)
            | _ => none
        | _ => none
    | _ => none

end

/-- The draft of a text that holds one value and white space. -/
def parse? (s : String) : Option Draft :=
  let cs := s.toList
  match value? (2 * cs.length + 2) cs with
  | some (draft, rest) => if skip rest = [] then some draft else none
  | none => none

/-! ## Values of drafts -/

/-- What is expected at a place: anything, a record with known member names, or a container. -/
inductive Shape where
  | any
  | record (fields : List (List String × Shape))
  | optional (inner : Shape)
  | list (inner : Shape)
  | dictionary (inner : Shape)
deriving Inhabited

namespace Shape

/-- The shape where a missing value is allowed, seen through. -/
def core : Shape → Shape
  | .optional inner => core inner
  | shape => shape

/-- The shape of the items of an array, by position; none where the array is too long. -/
def item? (shape : Shape) (i : Nat) : Option Shape :=
  match shape.core with
  | .list inner => some inner
  | .record fields => (fields[i]?).map Prod.snd
  | _ => some .any

/-- The shape of a member of an object, by name; none where the member is passed over. -/
def member? (shape : Shape) (key : String) : Option Shape :=
  match shape.core with
  | .dictionary inner => some inner
  | .record fields => (fields.find? fun field => field.1.contains key).map Prod.snd
  | _ => some .any

/-- The members of an object put together: a record must not know one of them twice, a typed
dictionary keeps them all until their values have been looked at, and where anything is accepted a
later member replaces an earlier one. -/
def gather? (shape : Shape) (members : List (String × Json)) : Option Json :=
  match shape.core with
  | .record fields =>
    if fields.all fun field => members.countP (fun m => field.1.contains m.1) ≤ 1 then
      some (.object members)
    else none
  | .dictionary _ => some (.object members)
  | _ => some (.object (Dictionary.ofList members))

end Shape

/-- How deep arrays and objects may be nested. -/
def greatestDepth : Nat := 127

mutual

/-- The value of a draft of which a shape is expected, `depth` levels from the deepest allowed. -/
def readAt? (shape : Shape) (depth : Nat) : Draft → Option Json
  | .null => some .null
  | .bool b => some (.bool b)
  | .number n => n.value?
  | .string s => s.map .string
  | .array items =>
    if depth = 0 then none else (readItems? shape (depth - 1) 0 items).map .array
  | .object members =>
    if depth = 0 then none else (readMembers? shape (depth - 1) members).bind shape.gather?

/-- The values of the items from the `i`-th on. -/
def readItems? (shape : Shape) (depth i : Nat) : List Draft → Option (List Json)
  | [] => some []
  | item :: rest =>
    match shape.item? i with
    | none => none
    | some inner =>
      match readAt? inner depth item, readItems? shape depth (i + 1) rest with
      | some j, some js => some (j :: js)
      | _, _ => none

/-- The values of the members that are not passed over. -/
def readMembers? (shape : Shape) (depth : Nat) :
    List (Option String × Draft) → Option (List (String × Json))
  | [] => some []
  | (key, item) :: rest =>
    match key with
    | none => none
    | some key =>
      match shape.member? key with
      | none => readMembers? shape depth rest
      | some inner =>
        match readAt? inner depth item, readMembers? shape depth rest with
        | some j, some js => some ((key, j) :: js)
        | _, _ => none

end

/-- The value of a draft of which a shape is expected. -/
def read? (shape : Shape) (draft : Draft) : Option Json := readAt? shape greatestDepth draft

end Draft

/-- The value of a text of which a shape is expected. -/
def ofText? (shape : Draft.Shape) (s : String) : Option Json :=
  (Draft.parse? s).bind (·.read? shape)

/-- The value of a text of which nothing is expected. -/
def parse? (s : String) : Option Json := ofText? .any s

end CatalogGraph.Json
