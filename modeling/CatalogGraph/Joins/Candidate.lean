import CatalogGraph.Discovery.Column
import CatalogGraph.Joins.Names

/-!
# Join candidates

A candidate is a pair of columns that probably join, with the reason. Candidates are ordered by
their left column, then by their right column, then by the reason.
-/

namespace CatalogGraph.Joins

open Json

namespace Basis

/-- The reason as it is shown. -/
def text : Basis → String
  | .exactName => "exact name"
  | .normalizedName => "normalized name"
  | .foreignKeySuffix => "foreign key suffix"

/-- The reason as it is kept. -/
def name : Basis → String
  | .exactName => "exact_name"
  | .normalizedName => "normalized_name"
  | .foreignKeySuffix => "foreign_key_suffix"

/-- All reasons in their order. -/
def all : List Basis := [.exactName, .normalizedName, .foreignKeySuffix]

/-- The place of a reason in their order. -/
def rank : Basis → Nat
  | .exactName => 0
  | .normalizedName => 1
  | .foreignKeySuffix => 2

end Basis

/-- Two columns that probably join. For a foreign key the left one refers to the right one. -/
structure Candidate where
  left : Column
  right : Column
  basis : Basis
deriving DecidableEq, Repr

namespace Candidate

/-- The candidate as it is shown. -/
def text (c : Candidate) : String :=
  let arrow := match c.basis with
    | .foreignKeySuffix => "->"
    | _ => "<->"
  c.left.text ++ " " ++ arrow ++ " " ++ c.right.text ++ " [" ++ c.basis.text ++ "]"

/-- The candidate as a JSON record. -/
def toJson (c : Candidate) : Json :=
  .object [("left", c.left.toJson), ("right", c.right.toJson), ("basis", .string c.basis.name)]

/-- A candidate as a JSON record. -/
def recordType : RecordType Candidate where
  title := "struct JoinCandidate"
  slots :=
    [.of "left" true Column.recordType.decode fun v c => { c with left := v },
     .of "right" true Column.recordType.decode fun v c => { c with right := v },
     .of "basis" true (Decoder.choice (Basis.all.map fun b => (b.name, b))) fun v c =>
       { c with basis := v }]
  blank := ⟨Column.recordType.blank, Column.recordType.blank, .exactName⟩

/-- Candidates as they are kept. -/
def codec : Codec Candidate := ⟨toJson, recordType.decode⟩

/-! ## Order -/

/-- What candidates are compared by before the reason. -/
def orderKey (c : Candidate) : List String := c.left.orderKey ++ c.right.orderKey

/-- Whether a candidate comes before another one. -/
def before (a b : Candidate) : Bool :=
  a.orderKey < b.orderKey || (a.orderKey == b.orderKey && a.basis.rank < b.basis.rank)

/-- The list with a candidate put into it in its place, where it is not yet in it. -/
def insert (c : Candidate) : List Candidate → List Candidate
  | [] => [c]
  | other :: rest =>
    if c = other then other :: rest
    else if c.before other then c :: other :: rest
    else other :: insert c rest

/-- The candidates in their order, each once. -/
def sort (cs : List Candidate) : List Candidate := cs.foldr insert []

end Candidate

end CatalogGraph.Joins
