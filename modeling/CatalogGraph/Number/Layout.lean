import CatalogGraph.Number.Shortest
import CatalogGraph.Text.Digits

/-!
# Writing doubles

Two layouts of the shortest decimal of a finite double: the plain one, which never has an exponent,
and the one of JSON texts, which has an exponent for very large and very small numbers. The values
that are no finite doubles are written by their names, and have no place in JSON texts.
-/

namespace CatalogGraph

namespace Double

open Text

/-- The digits with the decimal point `exponent` places after their end, and no point where none
is needed. -/
def pointed (digits : List Char) (exponent : Int) : List Char :=
  let whole : Int := digits.length + exponent
  if 0 ≤ exponent then digits ++ List.replicate exponent.toNat '0'
  else if 0 < whole then digits.take whole.toNat ++ '.' :: digits.drop whole.toNat
  else '0' :: '.' :: List.replicate (-whole).toNat '0' ++ digits

/-- The sign of a double as it is written. -/
def signChars (x : Double) : List Char := if x.negative then ['-'] else []

/-- The shortest digits in place, without an exponent and without a point after a whole number. -/
def plain (x : Double) : String :=
  let d := Decimal.shortest x
  String.ofList (x.signChars ++ pointed (decimal d.coefficient).toList d.exponent)

/-- The least exponent of ten that a JSON text writes in place. -/
def leastPlaced : Int := -5

/-- The exponent of ten from which on a JSON text writes an exponent. -/
def leastRaised : Int := 16

/-- The JSON text of a double: in place with at least one digit after the point, or with one digit
before the point and a signed exponent. -/
def json (x : Double) : String :=
  let d := Decimal.shortest x
  let digits := (decimal d.coefficient).toList
  let e : Int := d.exponent + digits.length - 1
  let body :=
    if leastPlaced ≤ e ∧ e < leastRaised then
      if 0 ≤ d.exponent then pointed digits d.exponent ++ ['.', '0']
      else pointed digits d.exponent
    else
      let mantissa := match digits with
        | [] => []
        | [c] => [c]
        | c :: more => c :: '.' :: more
      mantissa ++ 'e' :: (if 0 ≤ e then ['+'] else []) ++ (signedDecimal e).toList
  String.ofList (x.signChars ++ body)

end Double

/-- The plain layout of any value. -/
def FloatValue.plain : FloatValue → String
  | .finite x => x.plain
  | .infinite negative => if negative then "-inf" else "inf"
  | .nan => "NaN"

end CatalogGraph
