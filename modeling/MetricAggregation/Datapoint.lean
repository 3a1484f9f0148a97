import MetricAggregation.Number

/-!
What a flush reports: values under dotted paths.
-/

namespace MetricAggregation

/-- One reported value. The timestamp is in seconds. -/
structure Datapoint (α : Type) where
  path : String
  value : α
  timestamp : Nat

/-- The path of a name under a stem. The point between them is left out if the stem is empty or has it
already. -/
def joinPath (stem name : String) : String :=
  if stem.isEmpty then name
  else if stem.toList.getLast? = some '.' then stem ++ name
  else stem ++ "." ++ name

/-- Sorts datapoints by path. Those that share a path keep their order. -/
def sortByPath {α : Type} (points : List (Datapoint α)) : List (Datapoint α) :=
  points.mergeSort fun left right => decide (left.path ≤ right.path)

end MetricAggregation
