/-!
# Ranges of code points

A property of characters is given by a table of closed ranges of code points.
-/

namespace JobHooks.Text

set_option autoImplicit false

/-- Whether a code point lies in one of the ranges. -/
def inRanges (ranges : Array (Nat × Nat)) (point : Nat) : Bool :=
  ranges.any fun range => range.1 ≤ point && point ≤ range.2

end JobHooks.Text
