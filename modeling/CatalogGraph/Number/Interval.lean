/-!
# Intervals of whole numbers

The whole numbers that fit a number of bits, with a sign or without one.
-/

namespace CatalogGraph

/-- The whole numbers from `low` to `high`. -/
structure Interval where
  low : Int
  high : Int
deriving DecidableEq, Repr

namespace Interval

/-- Whether a number is in the interval. -/
def holds (i : Interval) (n : Int) : Bool := decide (i.low ≤ n) && decide (n ≤ i.high)

/-- The numbers of so many bits, one of which is the sign. -/
def signed (bits : Nat) : Interval :=
  ⟨-Int.ofNat (Nat.pow 2 (bits - 1)), Int.ofNat (Nat.pow 2 (bits - 1)) - 1⟩

/-- The numbers of so many bits without a sign. -/
def unsigned (bits : Nat) : Interval := ⟨0, Int.ofNat (Nat.pow 2 bits) - 1⟩

theorem holds_iff (i : Interval) (n : Int) : i.holds n ↔ i.low ≤ n ∧ n ≤ i.high := by
  simp [holds]

end Interval

end CatalogGraph
