import CatalogGraph.Number.Double

/-!
# The shortest decimal of a double

Every double is the nearest double to each real of an interval around it. Among the decimals of
that interval the shortest one, and of two equally short ones the one nearer to the double, is the
decimal by which the double is written.

For one digit, two digits and so on, the two multiples of the power of ten around the double are
tried; the first number of digits for which one of them lies in the interval decides.
-/

namespace CatalogGraph

/-- The number `coefficient * 10 ^ exponent`. -/
structure Decimal where
  coefficient : Nat
  exponent : Int
deriving DecidableEq, Repr

namespace Decimal

/-- How many decimal digits a number has; zero has none. -/
def digitCount (n : Nat) : Nat := if n = 0 then 0 else (Nat.toDigits 10 n).length

/-- The exponent of the greatest power of ten that is at most `num / den`, both positive. -/
def magnitude (num den : Nat) : Int :=
  if den ≤ num then (digitCount (num / den) : Int) - 1
  else -(digitCount ((den + num - 1) / num - 1) : Int)

/-- A double as a window of reals, all in quarters of its last binary place. -/
structure Window where
  low : Nat
  middle : Nat
  high : Nat
  closed : Bool
  unit : Int

/-- The reals to which the double is nearest. Below a power of two the doubles lie twice as dense,
so that end is nearer. The ends belong to the window when the significand is even. -/
def Window.of (x : Double) : Window :=
  let m := 4 * x.significand
  let thin := x.significand == Nat.pow 2 52 && x.exponent != Double.leastExponent
  ⟨if thin then m - 1 else m - 2, m, m + 2, x.significand % 2 == 0, x.exponent - 2⟩

/-- The multiple of `10 ^ place` in the window that is nearest to its middle, if any is in it. -/
def Window.hit? (w : Window) (place : Int) : Option Decimal :=
  let ours := Nat.pow 10 place.toNat * Nat.pow 2 (-w.unit).toNat
  let theirs := Nat.pow 2 w.unit.toNat * Nat.pow 10 (-place).toNat
  let inside (c : Nat) : Bool :=
    if w.closed then w.low * theirs ≤ c * ours && c * ours ≤ w.high * theirs
    else w.low * theirs < c * ours && c * ours < w.high * theirs
  let below := w.middle * theirs / ours
  let above := below + 1
  let toBelow := w.middle * theirs - below * ours
  let toAbove := above * ours - w.middle * theirs
  let aboveFirst := toAbove < toBelow || (toAbove == toBelow && below % 2 == 1)
  match inside below && below != 0, inside above with
  | true, true => some ⟨if aboveFirst then above else below, place⟩
  | true, false => some ⟨below, place⟩
  | false, true => some ⟨above, place⟩
  | false, false => none

/-- The first hit among the grids of `n` digits and more, up to seventeen. -/
def Window.shortestFrom (w : Window) (top : Int) : Nat → Nat → Decimal
  | _, 0 => ⟨0, 0⟩
  | n, fuel + 1 =>
    match w.hit? (top - n + 1) with
    | some d => d
    | none => w.shortestFrom top (n + 1) fuel

/-- The decimal without a final zero. Only the first grid can hit with one, at the power of ten just
above the double, so one zero is all there is to drop. -/
def trimmed (d : Decimal) : Decimal :=
  if d.coefficient % 10 = 0 then ⟨d.coefficient / 10, d.exponent + 1⟩ else d

/-- The shortest decimal to which no other double is nearer. -/
def shortest (x : Double) : Decimal :=
  if x.isZero then ⟨0, 0⟩
  else ((Window.of x).shortestFrom (magnitude x.numerator x.denominator) 1 17).trimmed

end Decimal

end CatalogGraph
