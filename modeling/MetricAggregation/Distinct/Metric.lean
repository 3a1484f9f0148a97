import MetricAggregation.Distinct.SlidingCounter
import MetricAggregation.Plugin.Metric

/-!
Metrics that estimate how many distinct items were seen, ever and within the last day, hour and minute.
-/

namespace MetricAggregation

/-- A metric of distinct items. -/
structure DistinctMetric (α : Type) where
  counter : SlidingCounter α

namespace DistinctMetric

variable {α : Type} [Number α]

def hashes : Nat := 32

def buckets : Nat := 32

/-- A metric that has seen nothing, with hash functions of its own. -/
def new (boxes : Nat → SBox) : DistinctMetric α :=
  ⟨.empty ((List.range hashes).map boxes) buckets⟩

def update (metric : DistinctMetric α) (now : α) (item : String) : DistinctMetric α :=
  ⟨metric.counter.add now item.toUTF8.toList⟩

def count (metric : DistinctMetric α) : Nat := metric.counter.distinct 0

def countWithin (metric : DistinctMetric α) (now seconds : α) : Nat :=
  metric.counter.distinct (now - seconds)

/-- What a flush reports, under the names that it reports it by. -/
def statistics (metric : DistinctMetric α) (now : α) : List (String × Nat) :=
  [("count", metric.count), ("count_1day", metric.countWithin now ((86400 : Nat) : α)),
    ("count_1hour", metric.countWithin now ((3600 : Nat) : α)),
    ("count_1min", metric.countWithin now ((60 : Nat) : α))]

def report (metric : DistinctMetric α) (path : String) (now : α) (timestamp : Nat) :
    List (Datapoint α) :=
  (metric.statistics now).map fun entry => ⟨joinPath path entry.1, (entry.2 : α), timestamp⟩

end DistinctMetric

/-- The factory of metrics of distinct items. -/
inductive DistinctFactory where
  | mk

instance : MetricFactory DistinctFactory where
  name _ := "pdistinct"
  tag _ := "pd"
  configure factory _ := .ok factory

instance {α : Type} [Number α] : MetricPlugin DistinctFactory (DistinctMetric α) α where
  build _ _ _ boxes := .new boxes
  process metric now fields := ⟨.ok (metric.update now fields.value), 0⟩
  flush metric address now _ timestamp := ⟨(metric.report address.path now timestamp, metric), 0⟩

end MetricAggregation
