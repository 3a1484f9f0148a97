/-!
Classes of characters that are given by ranges of code points.
-/

namespace MetricAggregation.Text

/-- Whether the code point of a character lies in one of some closed ranges. -/
def inRanges (ranges : List (Nat × Nat)) (char : Char) : Bool :=
  ranges.any fun range => range.1 ≤ char.toNat && char.toNat ≤ range.2

end MetricAggregation.Text
