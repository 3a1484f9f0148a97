import MetricAggregation.Engine.Flush
import MetricAggregation.Engine.Process

/-!
Runs of an engine: the steps that are taken one after another, and what their flushes report.
-/

namespace MetricAggregation

/-- A step of a run. -/
inductive Step (α : Type) where
  | message (bytes : List UInt8)
  | packet (bytes : List UInt8)
  | increment (key : String) (value : α)
  | timing (key : String) (duration : α)
  | tick
  | flush (interval : Duration) (percent : Nat)
  | setWallClock (seconds : α)
  | setStopwatch (watch : Stopwatch)

namespace Engine

variable {α φ μ : Type} [Number α] [MetricFactory φ] [MetricPlugin φ μ α]

/-- Takes a step; the result of a flush is what it reports, and of any other step nothing. -/
def step (engine : Engine α φ μ) : Step α → Option (List (Datapoint α)) × Engine α φ μ
  | .message bytes => (none, engine.process bytes)
  | .packet bytes => (none, engine.processPacket bytes)
  | .increment key value => (none, engine.increment key value)
  | .timing key duration => (none, engine.recordTiming key duration)
  | .tick => (none, engine.tickMeters)
  | .flush interval percent =>
    let (points, engine) := engine.flush interval percent
    (some points, engine)
  | .setWallClock seconds => (none, { engine with wallClock := seconds })
  | .setStopwatch watch => (none, { engine with stopwatch := watch })

/-- Takes steps one after another. The result lists what the flushes among them report. -/
def run (engine : Engine α φ μ) : List (Step α) → List (List (Datapoint α)) × Engine α φ μ
  | [] => ([], engine)
  | first :: rest =>
    let (report?, next) := engine.step first
    let (reports, final) := next.run rest
    (report?.toList ++ reports, final)

end Engine

end MetricAggregation
