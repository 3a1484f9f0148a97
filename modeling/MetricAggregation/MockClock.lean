import MetricAggregation.Decimal.Layout

/-!
Clocks that are set by hand.
-/

namespace MetricAggregation

/-- A clock that shows what it was last set to, in seconds. -/
structure MockClock where
  seconds : Double

namespace MockClock

def zero : MockClock := ⟨0.0⟩

def advance (clock : MockClock) (seconds : Double) : MockClock := ⟨clock.seconds + seconds⟩

def describe (clock : MockClock) : String :=
  "MockClock \x7b secs: " ++ Decimal.Layout.debug.write clock.seconds ++ " \x7d"

end MockClock

end MetricAggregation
