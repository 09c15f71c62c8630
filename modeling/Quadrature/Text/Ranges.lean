/-!
# Sets of characters as ranges

A property of characters is a list of ranges of code points, both ends included.
-/

namespace Quadrature.Text

/-- Ranges of code points with both ends. -/
abbrev Ranges := List (Nat × Nat)

/-- Whether a character lies in one of the ranges. -/
def Ranges.contains (rs : Ranges) (c : Char) : Bool :=
  rs.any fun r => r.1 ≤ c.toNat && c.toNat ≤ r.2

end Quadrature.Text
