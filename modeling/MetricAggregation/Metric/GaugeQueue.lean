import MetricAggregation.Datapoint

/-!
Gauges: every value is reported, in the order of arrival.
-/

namespace MetricAggregation

/-- The gauge values that wait for the next flush, with their keys. -/
structure GaugeQueue (α : Type) where
  pending : Array (String × α)

namespace GaugeQueue

variable {α : Type}

def empty : GaugeQueue α := ⟨#[]⟩

def push (queue : GaugeQueue α) (key : String) (value : α) : GaugeQueue α :=
  ⟨queue.pending.push (key, value)⟩

def size (queue : GaugeQueue α) : Nat := queue.pending.size

def isEmpty (queue : GaugeQueue α) : Bool := queue.pending.isEmpty

def keys (queue : GaugeQueue α) : List String := queue.pending.toList.map Prod.fst

def valuesOf (queue : GaugeQueue α) (key : String) : List α :=
  (queue.pending.toList.filter fun entry => entry.1 = key).map Prod.snd

def path (stem key : String) : String := joinPath stem key ++ ".value"

/-- Every value that waits, under the path of its gauge. -/
def report (queue : GaugeQueue α) (stem : String) (timestamp : Nat) : List (Datapoint α) :=
  queue.pending.toList.map fun entry => ⟨path stem entry.1, entry.2, timestamp⟩

end GaugeQueue

end MetricAggregation
