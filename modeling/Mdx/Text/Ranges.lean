/-!
# Ranges of code points

A character class given by data is a list of closed ranges of code points in increasing order.
-/

namespace Mdx.Text

/-- A class of characters as closed ranges of code points. -/
abbrev Ranges := List (Nat × Nat)

/-- The character's code point lies in one of the ranges. -/
def Ranges.has (ranges : Ranges) (c : Char) : Bool :=
  ranges.any fun (low, high) => low ≤ c.toNat && c.toNat ≤ high

end Mdx.Text
