/-!
# Sets of characters as ranges

A set of characters is given by ranges of code points, both ends included, in increasing order.
-/

namespace SlotTemplate.Text

abbrev Ranges := List (Nat × Nat)

/-- Whether a character lies in one of the ranges. -/
def Ranges.contains (rs : Ranges) (c : Char) : Bool :=
  rs.any fun r => decide (r.1 ≤ c.toNat) && decide (c.toNat ≤ r.2)

end SlotTemplate.Text
