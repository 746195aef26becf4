import CatalogGraph.Dictionary
import CatalogGraph.Number.Double

/-!
# JSON values

Whole numbers are kept apart from doubles; they lie between `-2 ^ 63` and `2 ^ 64 - 1`. An object
keeps its members in the order in which they are given: records in the order of their fields,
free-form values as dictionaries in key order.
-/

namespace CatalogGraph

/-- A JSON value. -/
inductive Json where
  | null
  | bool (b : Bool)
  | int (n : Int)
  | float (x : Double)
  | string (s : String)
  | array (items : List Json)
  | object (members : List (String × Json))
deriving Inhabited, Repr

namespace Json

/-- The value of a floating point type; null where it is no finite double. -/
def ofFloat : FloatValue → Json
  | .finite x => .float x
  | .infinite _ | .nan => .null

/-- The array of the texts. -/
def strings (items : List String) : Json := .array (items.map .string)

/-- The value, or null. -/
def orNull (j : Option Json) : Json := j.getD .null

/-- The member of an object under a key. -/
def member? (j : Json) (key : String) : Option Json :=
  match j with
  | .object members => Dictionary.find? members key
  | _ => none

end Json

end CatalogGraph
