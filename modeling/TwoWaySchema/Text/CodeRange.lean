/-!
# Ranges of code points

Properties of characters are tables of inclusive ranges of code points in ascending order.
-/

namespace TwoWaySchema.Text

/-- Whether one of the inclusive ranges holds a code point. -/
def inRanges (ranges : List (Nat × Nat)) (code : Nat) : Bool :=
  ranges.any fun range ↦ range.1 ≤ code && code ≤ range.2

end TwoWaySchema.Text
