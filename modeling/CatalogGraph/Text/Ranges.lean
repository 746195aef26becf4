/-!
# Sets of characters by range

A set of characters is written as the list of its code point ranges, both ends included and in
ascending order. Character classes that follow a published table are values of this type.
-/

namespace CatalogGraph.Text

/-- Code point ranges, both ends included. -/
abbrev Ranges := List (Nat × Nat)

/-- Whether some range holds the character. -/
def Ranges.holds (ranges : Ranges) (c : Char) : Bool :=
  ranges.any fun range => range.1 ≤ c.toNat && c.toNat ≤ range.2

end CatalogGraph.Text
