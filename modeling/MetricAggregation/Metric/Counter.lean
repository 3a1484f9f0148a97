import MetricAggregation.Datapoint

/-!
Counters: how much was counted since the last flush, and how fast.
-/

namespace MetricAggregation

/-- A counter, with what was counted since the last flush. -/
structure Counter (α : Type) where
  value : α

namespace Counter

variable {α : Type} [Number α]

def zero : Counter α := ⟨0⟩

/-- Counts a value that stands for all of which it is a sample at the given rate. -/
def update (counter : Counter α) (value rate : α) : Counter α :=
  ⟨counter.value + value * (1 / rate)⟩

/-- The count per second of an interval; none if no time has passed. -/
def rate (counter : Counter α) (seconds : α) : α :=
  if 0 < seconds then counter.value / seconds else 0

/-- The rate and the count, under a path each. -/
def report (counter : Counter α) (ratePath countPath : String) (seconds : α) (timestamp : Nat) :
    List (Datapoint α) :=
  [⟨ratePath, counter.rate seconds, timestamp⟩, ⟨countPath, counter.value, timestamp⟩]

end Counter

end MetricAggregation
