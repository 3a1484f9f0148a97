import MetricAggregation.Datapoint
import MetricAggregation.MovingAverage

/-!
Meters: how many events there were since the start, and at which rates they come.
-/

namespace MetricAggregation

/-- A meter. Its averages move with ticks, however often it is flushed. -/
structure Meter (α : Type) where
  count : α
  oneMinute : MovingAverage α
  fiveMinutes : MovingAverage α
  fifteenMinutes : MovingAverage α
  /-- When the meter started, in seconds. -/
  start : α

namespace Meter

variable {α : Type} [Number α]

def new (now : α) : Meter α := ⟨0, .overMinutes 1, .overMinutes 5, .overMinutes 15, now⟩

def mark (meter : Meter α) (events : α) : Meter α :=
  { meter with
    count := meter.count + events
    oneMinute := meter.oneMinute.update events
    fiveMinutes := meter.fiveMinutes.update events
    fifteenMinutes := meter.fifteenMinutes.update events }

def tick (meter : Meter α) : Meter α :=
  { meter with
    oneMinute := meter.oneMinute.tick
    fiveMinutes := meter.fiveMinutes.tick
    fifteenMinutes := meter.fifteenMinutes.tick }

/-- Events per second since the start; none if no time has passed. -/
def meanRate (meter : Meter α) (now : α) : α :=
  let elapsed := now - meter.start
  if 0 < elapsed then meter.count / elapsed else 0

/-- What a flush at a time reports, before rounding, under the names that it reports it by. -/
def statistics (meter : Meter α) (now : α) : List (String × α) :=
  [("15min_rate", meter.fifteenMinutes.rate), ("1min_rate", meter.oneMinute.rate),
    ("5min_rate", meter.fiveMinutes.rate), ("count", meter.count), ("mean_rate", meter.meanRate now)]

def report (meter : Meter α) (path : String) (now : α) (timestamp : Nat) : List (Datapoint α) :=
  (meter.statistics now).map fun entry =>
    ⟨joinPath path entry.1, Number.roundToMicro entry.2, timestamp⟩

end Meter

end MetricAggregation
