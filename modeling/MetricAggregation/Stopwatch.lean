import MetricAggregation.Duration

/-!
Stopwatches, by which work is timed.
-/

namespace MetricAggregation

/-- A stopwatch that counts nanoseconds in a word of 64 bits, and starts over when the word is full. -/
structure Stopwatch where
  nanoseconds : UInt64

namespace Stopwatch

def zero : Stopwatch := ⟨0⟩

def advance (watch : Stopwatch) (nanoseconds : Nat) : Stopwatch :=
  ⟨watch.nanoseconds + UInt64.ofNat nanoseconds⟩

def rewind (watch : Stopwatch) (nanoseconds : Nat) : Stopwatch :=
  ⟨watch.nanoseconds - UInt64.ofNat nanoseconds⟩

/-- The time since an earlier reading; none if that was the higher one. -/
def since (watch start : Stopwatch) : Duration :=
  ⟨watch.nanoseconds.toNat - start.nanoseconds.toNat⟩

def timeOf (watch : Stopwatch) (nanoseconds : Nat) : Duration :=
  (watch.advance nanoseconds).since watch

end Stopwatch

end MetricAggregation
