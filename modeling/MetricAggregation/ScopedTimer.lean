import MetricAggregation.Engine.Process

/-!
Timers for a stretch of work. While it goes on, it counts as in flight; at its end its duration is
recorded, and it counts as a success or as an error.
-/

namespace MetricAggregation

/-- A stretch of work under a key, since a reading of the stopwatch. -/
structure ScopedTimer where
  key : String
  start : Stopwatch
  succeeded : Bool

namespace ScopedTimer

def inFlight (key : String) : String := key ++ ".in_flight"

def outcome (key : String) (succeeded : Bool) : String :=
  key ++ if succeeded then ".success" else ".error"

def succeed (timer : ScopedTimer) : ScopedTimer := { timer with succeeded := true }

variable {α φ μ : Type} [Number α]

/-- Starts work under a key, which may be written in any way. -/
def begin (engine : Engine α φ μ) (key : String) : ScopedTimer × Engine α φ μ :=
  let engine := engine.increment (inFlight key) 1
  (⟨key, engine.stopwatch, false⟩, engine)

/-- How long the work has taken. A stopwatch that was turned back shows no time. -/
def elapsed (timer : ScopedTimer) (engine : Engine α φ μ) : Duration :=
  engine.stopwatch.since timer.start

def finish (timer : ScopedTimer) (engine : Engine α φ μ) : Engine α φ μ :=
  let duration : α := (timer.elapsed engine).milliseconds α
  ((engine.increment (inFlight timer.key) (-1)).recordTiming timer.key duration).increment
    (outcome timer.key timer.succeeded) 1

end ScopedTimer

end MetricAggregation
