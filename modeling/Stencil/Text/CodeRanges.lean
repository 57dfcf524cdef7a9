/-!
Sets of characters given as ranges of code points.
-/
namespace Stencil.Text

/-- Ascending, disjoint ranges of code points, both ends included. -/
abbrev CodeRanges := List (Nat × Nat)

/-- The first range that does not end before the code decides. -/
def CodeRanges.contains : CodeRanges → Nat → Bool
  | [], _ => false
  | (low, high) :: rest, n => if n ≤ high then low ≤ n else CodeRanges.contains rest n

end Stencil.Text
