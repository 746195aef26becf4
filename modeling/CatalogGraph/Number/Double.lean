/-!
# Doubles

A finite double is a sign, a significand below `2 ^ 53` and a binary exponent. Arithmetic is exact
arithmetic of natural numbers followed by one rounding to the nearest double, where a tie goes to
the even significand. A result beyond the largest double is no finite double.

The infinities and what is not a number stand beside the finite doubles (`FloatValue`). A text never
gives one of them, but a filter that a program makes can hold them.
-/

namespace CatalogGraph

/-- The finite double `significand * 2 ^ exponent`, negated where `negative`. -/
structure Double where
  negative : Bool
  significand : Nat
  exponent : Int
deriving DecidableEq, Repr

/-- A value of a floating point type: a finite double, an infinity, or not a number. -/
inductive FloatValue where
  | finite (x : Double)
  | infinite (negative : Bool)
  | nan
deriving DecidableEq, Repr

namespace Double

/-- The least exponent of a double. -/
def leastExponent : Int := -1074

/-- The greatest exponent of a double. -/
def greatestExponent : Int := 971

/-- Zero, of either sign. -/
def zero (negative : Bool) : Double := ⟨negative, 0, leastExponent⟩

/-- Whether the double is zero, of either sign. -/
def isZero (x : Double) : Bool := x.significand == 0

/-- The double with the given sign and the magnitude of `x`. -/
def withSign (x : Double) (negative : Bool) : Double := ⟨negative, x.significand, x.exponent⟩

/-- The natural number nearest to `num / den`, the even one of two equally near. -/
def roundQuotient (num den : Nat) : Nat :=
  let q := num / den
  let r := num % den
  if 2 * r < den then q else if den < 2 * r then q + 1 else q + q % 2

/-- The exponent of the greatest power of two that is at most `num / den`, both positive. -/
def binade (num den : Nat) : Int :=
  let d : Int := (Nat.log2 num : Int) - (Nat.log2 den : Int)
  if den * Nat.pow 2 d.toNat ≤ num * Nat.pow 2 (-d).toNat then d else d - 1

/-- The double nearest to `num / den`, or nothing where that is beyond every finite one. -/
def ofQuotient? (negative : Bool) (num den : Nat) : Option Double :=
  if num = 0 then some (zero negative)
  else
    let e := max (binade num den - 52) leastExponent
    let m := roundQuotient (num * Nat.pow 2 (-e).toNat) (den * Nat.pow 2 e.toNat)
    let x : Double := if m = Nat.pow 2 53 then ⟨negative, Nat.pow 2 52, e + 1⟩ else ⟨negative, m, e⟩
    if greatestExponent < x.exponent then none else some x

/-- The numerator of the magnitude of a double, over `denominator`. -/
def numerator (x : Double) : Nat := x.significand * Nat.pow 2 x.exponent.toNat

/-- The denominator of the magnitude of a double, a power of two. -/
def denominator (x : Double) : Nat := Nat.pow 2 (-x.exponent).toNat

/-- The double nearest to the product of the magnitudes. -/
def mul? (x y : Double) : Option Double :=
  ofQuotient? false (x.numerator * y.numerator) (x.denominator * y.denominator)

/-- The double nearest to the quotient of the magnitudes. -/
def div? (x y : Double) : Option Double :=
  ofQuotient? false (x.numerator * y.denominator) (x.denominator * y.numerator)

/-- The double nearest to a natural number below `2 ^ 64`. -/
def ofNat (n : Nat) : Double := (ofQuotient? false n 1).getD (zero false)

/-- The double nearest to `10 ^ k`, where `k` is at most 308. -/
def tenPower (k : Nat) : Double := (ofQuotient? false (Nat.pow 10 k) 1).getD (zero false)

end Double

end CatalogGraph
