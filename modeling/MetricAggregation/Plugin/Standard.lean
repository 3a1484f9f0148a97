import MetricAggregation.Distinct.Metric
import MetricAggregation.ServiceLevel.Indicator

/-!
The metric types that are there unless they are left out: distinct items and service levels.
-/

namespace MetricAggregation

abbrev StandardFactory (α : Type) := DistinctFactory ⊕ IndicatorFactory α

abbrev StandardMetric (α : Type) := DistinctMetric α ⊕ Indicator α

def StandardFactory.all (α : Type) : List (StandardFactory α) := [.inl .mk, .inr .empty]

end MetricAggregation
