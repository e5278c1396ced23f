/-!
# Sets of code points

A character class is a list of closed ranges of code points in ascending order.
-/

set_option autoImplicit false

namespace Crosswalk.Text

/-- Closed ranges of code points. -/
abbrev CodePointSet :=
  List (Nat × Nat)

namespace CodePointSet

/-- Whether the character lies in one of the ranges. -/
def contains (set : CodePointSet) (c : Char) : Bool :=
  set.any fun range => range.1 ≤ c.toNat && c.toNat ≤ range.2

end CodePointSet

end Crosswalk.Text
