import CatalogGraph.Text.Blank
import CatalogGraph.Text.Case

/-!
# Comparison operators

The operators that a filter may name. All are declared in the schema; only equality, the two strict
comparisons and the text match can be asked of the engine.
-/

namespace CatalogGraph.Query

open Text

/-- A comparison operator. -/
inductive Operator where
  | eq
  | neq
  | gt
  | gte
  | lt
  | lte
  | like
  | notLike
  | isIn
  | notIn
  | isNull
  | isNotNull
  | between
  | notBetween
deriving DecidableEq, Repr

namespace Operator

/-- All operators in the order of their declaration. -/
def all : List Operator :=
  [.eq, .neq, .gt, .gte, .lt, .lte, .like, .notLike, .isIn, .notIn, .isNull, .isNotNull, .between,
   .notBetween]

/-- The name of an operator in a filter. -/
def name : Operator → String
  | .eq => "eq"
  | .neq => "neq"
  | .gt => "gt"
  | .gte => "gte"
  | .lt => "lt"
  | .lte => "lte"
  | .like => "like"
  | .notLike => "not_like"
  | .isIn => "in"
  | .notIn => "not_in"
  | .isNull => "is_null"
  | .isNotNull => "is_not_null"
  | .between => "between"
  | .notBetween => "not_between"

/-- The name of an operator in the schema. -/
def schemaName (op : Operator) : String := asciiUpper op.name

/-- What the schema says about an operator. -/
def description : Operator → String
  | .eq => "Equal to (=)"
  | .neq => "Not equal to (!= or <>)"
  | .gt => "Greater than (>)"
  | .gte => "Greater than or equal (>=)"
  | .lt => "Less than (<)"
  | .lte => "Less than or equal (<=)"
  | .like => "String match (LIKE)"
  | .notLike => "Not string match (NOT LIKE)"
  | .isIn => "In list (IN)"
  | .notIn => "Not in list (NOT IN)"
  | .isNull => "Is NULL"
  | .isNotNull => "Is NOT NULL"
  | .between => "Between values"
  | .notBetween => "Not between values"

/-- Whether the operator can be asked of the engine. -/
def isSupported : Operator → Bool
  | .eq | .lt | .gt | .like => true
  | _ => false

/-- The operator of that name, in any case of its ASCII letters and with white space around it. -/
def parse? (text : String) : Option Operator :=
  let wanted := asciiLower (trim text)
  all.find? fun op => op.name == wanted

end Operator

end CatalogGraph.Query
