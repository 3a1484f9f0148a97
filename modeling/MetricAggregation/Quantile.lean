import MetricAggregation.Decimal.Layout
import MetricAggregation.Double.Number

/-!
Quantiles and the labels under which their scores are reported.
-/

namespace MetricAggregation

/-- A quantile between zero and one, with its label. -/
structure Quantile (α : Type) where
  value : α
  label : String

namespace Quantile

/-- A number held within the unit interval. What is not a number stays as it is. -/
def clampUnit (value : Double) : Double :=
  if value < 0.0 then 0.0 else if 1.0 < value then 1.0 else value

/-- The label of a quantile: the median has a name, any other is told by its per cent without the point. -/
def labelOf (value : Double) : String :=
  if value == 0.5 then "median"
  else
    let percent := Decimal.Layout.label.write (value * 100.0)
    String.ofList (percent.toList.filter (· ≠ '.')) ++ "percentile"

def ofNumber (value : Double) : Quantile Double :=
  let clamped := clampUnit value
  ⟨clamped, labelOf clamped⟩

def isSame (left right : Quantile Double) : Bool :=
  left.value == right.value && left.label == right.label

end Quantile

end MetricAggregation
