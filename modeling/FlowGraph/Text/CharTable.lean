/-!
# Sets of characters as boundary lists

A set of characters is given by the code points at which membership changes, in
rising order, starting outside the set. A code point is inside when an odd number of
boundaries is not above it.
-/

namespace FlowGraph.Text

/-- The code points at which membership of a set changes. -/
abbrev Boundaries := List Nat

/-- The code point lies inside the set. -/
def Boundaries.holds (b : Boundaries) (n : Nat) : Bool :=
  b.countP (· ≤ n) % 2 == 1

/-- The character lies inside the set. -/
def Boundaries.mem (b : Boundaries) (c : Char) : Bool :=
  b.holds c.toNat

end FlowGraph.Text
