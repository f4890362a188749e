/-! # Ranges of code points

Character classes are kept as ascending lists of closed ranges, with one look-up for all of them.
-/

namespace IntentGateway.Text

/-- Whether a code point lies in one of the closed ranges. -/
def inRanges (ranges : List (Nat × Nat)) (point : Nat) : Bool :=
  ranges.any fun range => decide (range.1 ≤ point) && decide (point ≤ range.2)

end IntentGateway.Text
