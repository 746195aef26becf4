import CatalogGraph.Text.Digits

/-!
# Lexical parts of TOML documents

White space, comments, strings and keys of TOML 1.1. Each function takes what it knows from the
start of the text and gives back the rest, or nothing where the text is malformed.
-/

namespace CatalogGraph.Toml

open Text

/-- Something read from the start of a text, and the rest of the text. -/
abbrev Read (α : Type) := Option (α × List Char)

/-! ## White space and comments -/

/-- The white space within a line. -/
def isBlank (c : Char) : Bool := c == ' ' || c == '\t'

/-- A control character other than the tab; it must not stand in comments and strings. -/
def isControl (c : Char) : Bool := (c.toNat < 0x20 && c != '\t') || c.toNat == 0x7F

/-- The text after its white space. -/
def skipBlank (cs : List Char) : List Char := cs.dropWhile isBlank

/-- The text after the newline that it starts with. -/
def newline? : List Char → Option (List Char)
  | '\n' :: rest => some rest
  | '\r' :: '\n' :: rest => some rest
  | _ => none

/-- The text after all white space, comments and newlines. -/
def skipLines? (inComment : Bool) : List Char → Option (List Char)
  | [] => some []
  | '\n' :: rest => skipLines? false rest
  | '\r' :: '\n' :: rest => skipLines? false rest
  | c :: rest =>
    if inComment then (if isControl c then none else skipLines? true rest)
    else if isBlank c then skipLines? false rest
    else if c = '#' then skipLines? true rest
    else some (c :: rest)

/-- The text from its next newline on, which only white space and a comment may stand before. -/
def lineEnd? (inComment : Bool) : List Char → Option (List Char)
  | [] => some []
  | '\n' :: rest => some ('\n' :: rest)
  | '\r' :: '\n' :: rest => some ('\r' :: '\n' :: rest)
  | c :: rest =>
    if inComment then (if isControl c then none else lineEnd? true rest)
    else if isBlank c then lineEnd? false rest
    else if c = '#' then lineEnd? true rest
    else none

/-! ## Strings -/

/-- The character of hexadecimal digits. -/
def codePoint? (digits : List Char) : Option Char :=
  let n := readHex digits
  if digits.all isHexDigit ∧ n.isValidChar then some (Char.ofNat n) else none

/-- The character that an escape stands for; the text starts after the backslash. -/
def escape? : List Char → Read Char
  | 'b' :: rest => some ('\x08', rest)
  | 't' :: rest => some ('\t', rest)
  | 'n' :: rest => some ('\n', rest)
  | 'f' :: rest => some ('\x0C', rest)
  | 'r' :: rest => some ('\r', rest)
  | 'e' :: rest => some ('\x1B', rest)
  | '"' :: rest => some ('"', rest)
  | '\\' :: rest => some ('\\', rest)
  | 'x' :: a :: b :: rest => (codePoint? [a, b]).map (·, rest)
  | 'u' :: a :: b :: c :: d :: rest => (codePoint? [a, b, c, d]).map (·, rest)
  | 'U' :: a :: b :: c :: d :: e :: f :: g :: h :: rest =>
    (codePoint? [a, b, c, d, e, f, g, h]).map (·, rest)
  | _ => none

/-- A character put before what was read. -/
def before (c : Char) (r : Read (List Char)) : Read (List Char) :=
  r.map fun (cs, rest) => (c :: cs, rest)

/-- A basic string up to its closing quote. -/
def basicFrom? : Nat → List Char → Read (List Char)
  | 0, _ => none
  | _ + 1, [] => none
  | fuel + 1, c :: rest =>
    if c = '"' then some ([], rest)
    else if c = '\\' then
      match escape? rest with
      | some (d, rest) => before d (basicFrom? fuel rest)
      | none => none
    else if isControl c then none
    else before c (basicFrom? fuel rest)

/-- A literal string up to its closing quote. -/
def literal? : List Char → Read (List Char)
  | [] => none
  | '\x27' :: rest => some ([], rest)
  | c :: rest => if isControl c then none else before c (literal? rest)

/-- The text after the line break of a string that a backslash before it removes, with all white
space and line breaks that follow; nothing where the backslash does not end its line. -/
def lineBreak? (cs : List Char) : Option (List Char) :=
  (newline? (skipBlank cs)).map fun rest =>
    rest.dropWhile fun c => isBlank c || c == '\n' || c == '\r'

/-- The quotes at the start of a text: how many of them end a string of several lines, which may
itself end in up to two quotes. -/
def closingQuotes (quote : Char) (cs : List Char) : Nat :=
  min 5 (cs.takeWhile (· == quote)).length

/-- A character of a string of several lines that stands for itself, with the rest. -/
def plainChar? : List Char → Read (List Char)
  | '\n' :: rest => some (['\n'], rest)
  | '\r' :: '\n' :: rest => some (['\r', '\n'], rest)
  | c :: rest => if isControl c then none else some ([c], rest)
  | [] => none

/-- A string of several lines up to its closing quotes; escapes are read where `escaping`. -/
def linesFrom? (quote : Char) (escaping : Bool) : Nat → List Char → Read (List Char)
  | 0, _ => none
  | fuel + 1, cs =>
    let quotes := closingQuotes quote cs
    if 3 ≤ quotes then some (List.replicate (quotes - 3) quote, cs.drop quotes)
    else
      match escaping, cs with
      | true, '\\' :: rest =>
        match lineBreak? rest with
        | some rest => linesFrom? quote escaping fuel rest
        | none =>
          match escape? rest with
          | some (d, rest) => before d (linesFrom? quote escaping fuel rest)
          | none => none
      | _, _ =>
        match plainChar? cs with
        | some (these, rest) =>
          (linesFrom? quote escaping fuel rest).map fun (more, after) => (these ++ more, after)
        | none => none

/-- A string of several lines after its opening quotes; a newline that follows them is dropped. -/
def lines? (quote : Char) (escaping : Bool) (cs : List Char) : Read (List Char) :=
  let cs := (newline? cs).getD cs
  linesFrom? quote escaping (cs.length + 1) cs

/-- A basic string after its opening quote. -/
def basic? (cs : List Char) : Read (List Char) := basicFrom? (cs.length + 1) cs

/-! ## Keys -/

/-- A character of a bare key. -/
def isBareKey (c : Char) : Bool := c.isAlphanum || c == '-' || c == '_'

/-- A single key. -/
def simpleKey? : List Char → Read String
  | '"' :: rest => (basic? rest).map fun (cs, rest) => (String.ofList cs, rest)
  | '\x27' :: rest => (literal? rest).map fun (cs, rest) => (String.ofList cs, rest)
  | cs =>
    match cs.takeWhile isBareKey with
    | [] => none
    | key => some (String.ofList key, cs.dropWhile isBareKey)

/-- A key of one or more parts with points between them, and the text after the white space that
follows it. -/
def keyFrom? : Nat → List Char → Read (List String)
  | 0, _ => none
  | fuel + 1, cs =>
    match simpleKey? cs with
    | none => none
    | some (part, rest) =>
      match skipBlank rest with
      | '.' :: rest =>
        (keyFrom? fuel (skipBlank rest)).map fun (parts, rest) => (part :: parts, rest)
      | rest => some ([part], rest)

/-- A key of one or more parts. -/
def key? (cs : List Char) : Read (List String) := keyFrom? (cs.length + 1) cs

end CatalogGraph.Toml
