import CatalogGraph.Json.Value
import CatalogGraph.Number.Interval
import CatalogGraph.Text.Digits

/-!
# Reading JSON numbers

A number without fraction and exponent is a whole number if it fits sixty-four bits, and a double
otherwise; a negative zero is a double.

A double is read from a significand of at most sixty-four bits. Digits are taken into it from the
left until the next one would not fit; the digits of the integer part that are left over count as
places, those of the fraction are dropped. The significand, rounded to a double, is then multiplied
or divided by a power of ten, which rounds a second time. A number beyond every double is no value.
-/

namespace CatalogGraph.Json

open Text

/-- A number as it is written: its digits, and the sign and digits of its exponent. -/
structure NumberText where
  negative : Bool
  whole : List Char
  fraction : List Char
  exponent : Option (Bool × List Char)
deriving Repr

namespace NumberText

/-- The greatest significand. -/
def greatestSignificand : Nat := Nat.pow 2 64 - 1

/-- The greatest exponent that is read as a number. -/
def greatestExponent : Nat := Nat.pow 2 31 - 1

/-- Takes digits into a significand as long as they fit, and gives back those that are left. -/
def absorb (n : Nat) : List Char → Nat × List Char
  | [] => (n, [])
  | c :: rest =>
    let next := n * 10 + digitValue c
    if next ≤ greatestSignificand then absorb next rest else (n, c :: rest)

/-- A double divided by a power of ten, in steps of `10 ^ 308`. -/
def divideByTens (x : Double) (places : Nat) : Double :=
  if places ≤ 308 then (x.div? (Double.tenPower places)).getD (Double.zero false)
  else if x.isZero then x
  else divideByTens ((x.div? (Double.tenPower 308)).getD (Double.zero false)) (places - 308)
termination_by places

/-- A double multiplied by a power of ten, or nothing where that is beyond every double. -/
def multiplyByTens? (x : Double) (places : Nat) : Option Double :=
  if places ≤ 308 then x.mul? (Double.tenPower places)
  else if x.isZero then some x
  else none

/-- The double `significand * 10 ^ exponent`. -/
def scale? (significand : Nat) (exponent : Int) : Option Double :=
  let x := Double.ofNat significand
  if 0 ≤ exponent then multiplyByTens? x exponent.toNat
  else some (divideByTens x (-exponent).toNat)

/-- An exponent held within thirty-two bits. -/
def clampExponent (e : Int) : Int :=
  max (Interval.signed 32).low (min e (Interval.signed 32).high)

/-- The magnitude of a number with a fraction, an exponent or too many digits. -/
def magnitude? (n : NumberText) : Option Double :=
  let (m, unread) := absorb 0 n.whole
  let (m, dropped) := absorb m n.fraction
  let places : Int := unread.length - (n.fraction.length - dropped.length : Nat)
  match n.exponent with
  | none => scale? m places
  | some (negative, digits) =>
    let e := readDecimal digits
    if greatestExponent < e then
      if m ≠ 0 ∧ ¬ negative then none else some (Double.zero false)
    else scale? m (clampExponent (if negative then places - e else places + e))

/-- The value of a number, or nothing where it is beyond every double. -/
def value? (n : NumberText) : Option Json :=
  let whole := readDecimal n.whole
  if n.fraction = [] ∧ n.exponent = none ∧ whole ≤ greatestSignificand then
    if ¬ n.negative then some (.int whole)
    else if 0 < whole ∧ whole ≤ Nat.pow 2 63 then some (.int (-(whole : Int)))
    else some (.float ((Double.ofNat whole).withSign true))
  else n.magnitude?.map fun x => .float (x.withSign n.negative)

end NumberText

end CatalogGraph.Json
