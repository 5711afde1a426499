/-!
# Ranges of code points

Properties of characters are given as lists of ranges of code points, which `Text.within` reads.
-/

namespace MintDrop.Text

/-- Whether the code point of a character is in one of some ranges. -/
def within (ranges : List (Nat × Nat)) (c : Char) : Bool :=
  ranges.any fun (low, high) => low ≤ c.toNat && c.toNat ≤ high

end MintDrop.Text
