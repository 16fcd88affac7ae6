/-!
# Sets of code points

A property of characters is given by the ranges of code points that have it, in ascending order.
-/

namespace Failsafe.Unicode

/-- Inclusive ranges of code points. -/
abbrev Ranges := List (Nat × Nat)

/-- Whether a code point lies in one of the ranges. -/
def Ranges.contains (ranges : Ranges) (n : Nat) : Bool :=
  ranges.any fun (low, high) => low ≤ n && n ≤ high

end Failsafe.Unicode
