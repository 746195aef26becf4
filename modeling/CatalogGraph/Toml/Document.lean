import CatalogGraph.Toml.Lexical
import CatalogGraph.Toml.Table

/-!
# Reading TOML documents

A document is a list of lines: a header, a key with a value, or nothing. A value may reach over
several lines. Arrays and tables between braces may be nested eighty deep.
-/

namespace CatalogGraph.Toml

/-- How deep arrays and tables between braces may be nested. -/
def greatestDepth : Nat := 80

/-! ## Values -/

mutual

/-- A value; `depth` is how deep it may still be nested. -/
def value? (depth : Nat) : Nat → List Char → Read Value
  | 0, _ => none
  | fuel + 1, cs =>
    match cs with
    | '"' :: '"' :: '"' :: rest =>
      (lines? '"' true rest).map fun (s, rest) => (.string (String.ofList s), rest)
    | '"' :: rest => (basic? rest).map fun (s, rest) => (.string (String.ofList s), rest)
    | '\x27' :: '\x27' :: '\x27' :: rest =>
      (lines? '\x27' false rest).map fun (s, rest) => (.string (String.ofList s), rest)
    | '\x27' :: rest => (literal? rest).map fun (s, rest) => (.string (String.ofList s), rest)
    | '[' :: rest =>
      if depth = 0 then none
      else (items? (depth - 1) fuel rest).map fun (items, rest) => (.array items, rest)
    | '\x7b' :: rest =>
      if depth = 0 then none
      else (members? (depth - 1) fuel [] rest).map fun (members, rest) =>
        (.table .braces members, rest)
    | _ =>
      let (text, rest) := scalarText cs
      (scalar? text).map fun s => (.scalar s, rest)

/-- The items of an array up to its closing bracket. -/
def items? (depth : Nat) : Nat → List Char → Read (List Value)
  | 0, _ => none
  | fuel + 1, cs =>
    match skipLines? false cs with
    | none => none
    | some (']' :: rest) => some ([], rest)
    | some cs =>
      match value? depth fuel cs with
      | none => none
      | some (item, rest) =>
        match skipLines? false rest with
        | some (']' :: rest) => some ([item], rest)
        | some (',' :: rest) =>
          (items? depth fuel rest).map fun (items, rest) => (item :: items, rest)
        | _ => none

/-- The members of a table between braces up to its closing brace; some are known already. -/
def members? (depth : Nat) : Nat → Members → List Char → Read Members
  | 0, _, _ => none
  | fuel + 1, known, cs =>
    match skipLines? false cs with
    | none => none
    | some ('\x7d' :: rest) => some (known, rest)
    | some cs =>
      match key? cs with
      | some (key, '=' :: rest) =>
        match value? depth fuel (skipBlank rest) with
        | none => none
        | some (value, rest) =>
          match known.assign? true .braces value key, skipLines? false rest with
          | some known, some ('\x7d' :: rest) => some (known, rest)
          | some known, some (',' :: rest) => members? depth fuel known rest
          | _, _ => none
      | _ => none

end

/-! ## Lines -/

/-- A document so far: its table, and the way to the table that takes keys. -/
structure State where
  root : Members
  way : List String

/-- A header after its opening bracket. -/
def header? (s : State) (cs : List Char) : Option (State × List Char) :=
  match key? (skipBlank cs) with
  | some (key, ']' :: rest) => do
    let last ← key.getLast?
    let root ← s.root.enter? (Members.makeTable? last) key.dropLast
    return (⟨root, key⟩, rest)
  | _ => none

/-- A header after its opening double bracket. -/
def listHeader? (s : State) (cs : List Char) : Option (State × List Char) :=
  match key? (skipBlank cs) with
  | some (key, ']' :: ']' :: rest) => do
    let last ← key.getLast?
    let root ← s.root.enter? (Members.addTable? last) key.dropLast
    return (⟨root, key⟩, rest)
  | _ => none

/-- A key with its value. -/
def pair? (s : State) (cs : List Char) : Option (State × List Char) :=
  match key? cs with
  | some (key, '=' :: rest) => do
    let (value, rest) ← value? greatestDepth (2 * rest.length + 2) (skipBlank rest)
    let root ← s.root.enter? (Members.assign? true .header value key) s.way
    return (⟨root, s.way⟩, rest)
  | _ => none

/-- What stands at the start of a line that is not empty. -/
def entry? (s : State) (cs : List Char) : Option (State × List Char) :=
  match cs with
  | '[' :: '[' :: rest => listHeader? s rest
  | '[' :: rest => header? s rest
  | _ => pair? s cs

/-- All lines of a document. -/
def lines : Nat → State → List Char → Option Members
  | 0, _, _ => none
  | fuel + 1, s, cs =>
    match skipLines? false cs with
    | none => none
    | some [] => some s.root
    | some cs =>
      match entry? s cs with
      | none => none
      | some (s, rest) =>
        match lineEnd? false rest with
        | none => none
        | some rest => lines fuel s rest

/-- The table of a document; a byte order mark at its start is passed over. -/
def parse? (s : String) : Option Members :=
  let cs := match s.toList with
    | '\uFEFF' :: rest => rest
    | cs => cs
  lines (cs.length + 1) ⟨[], []⟩ cs

end CatalogGraph.Toml
