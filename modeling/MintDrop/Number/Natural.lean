/-!
# Decimal text of natural numbers

`Natural.ofText?` reads decimal digits behind an optional plus sign, and nothing else.
-/

namespace MintDrop.Natural

/-- The value of decimal digits. -/
def ofDigits (ds : List Char) : Nat := ds.foldl (fun n c => 10 * n + (c.toNat - '0'.toNat)) 0

/-- The number that a text spells. -/
def ofText? (cs : List Char) : Option Nat :=
  let ds := match cs with
    | '+' :: rest => rest
    | cs => cs
  if ds ≠ [] ∧ ds.all Char.isDigit then some (ofDigits ds) else none

end MintDrop.Natural
