import MetricAggregation.Number

/-!
Spans of time, counted in nanoseconds.
-/

namespace MetricAggregation

/-- A span of time. -/
structure Duration where
  nanoseconds : Nat
deriving DecidableEq, Repr

namespace Duration

def ofSeconds (seconds : Nat) : Duration := ⟨seconds * 1000000000⟩

variable (α : Type) [Number α]

/-- The length in seconds: the whole seconds, and the nanoseconds left as a fraction of one. -/
def seconds (duration : Duration) : α :=
  ((duration.nanoseconds / 1000000000 : Nat) : α) +
    ((duration.nanoseconds % 1000000000 : Nat) : α) / ((1000000000 : Nat) : α)

def milliseconds (duration : Duration) : α := duration.seconds α * ((1000 : Nat) : α)

end Duration

end MetricAggregation
