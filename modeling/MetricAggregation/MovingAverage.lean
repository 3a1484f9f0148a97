import MetricAggregation.Number

/-!
Exponentially weighted moving averages of the rate of events, in the style of load averages. Events are
counted as they come, and a tick at regular intervals folds them into the average.
-/

namespace MetricAggregation

/-- A moving average. -/
structure MovingAverage (α : Type) where
  /-- The weight of the latest interval. -/
  alpha : α
  /-- The seconds between ticks. -/
  interval : α
  /-- Whether there has been a tick yet. -/
  started : Bool
  /-- Events per second. -/
  rate : α
  /-- The events since the last tick. -/
  uncounted : α

namespace MovingAverage

variable {α : Type} [Number α]

/-- The seconds between the ticks of a load average. -/
def tickSeconds : Nat := 5

def new (alpha interval : α) : MovingAverage α := ⟨alpha, interval, false, 0, 0⟩

/-- The weight with which a load average over a number of minutes takes in an interval. -/
def loadAlpha (minutes : Nat) : α :=
  1 - Number.exp (-(tickSeconds : α) / ((60 : Nat) : α) / (minutes : α))

def overMinutes (minutes : Nat) : MovingAverage α := new (loadAlpha minutes) (tickSeconds : α)

def update (average : MovingAverage α) (events : α) : MovingAverage α :=
  { average with uncounted := average.uncounted + events }

/-- Folds the events since the last tick into the average; the first tick starts it off. -/
def tick (average : MovingAverage α) : MovingAverage α :=
  let latest := average.uncounted / average.interval
  { average with
    uncounted := 0
    started := true
    rate :=
      if average.started then average.rate + average.alpha * (latest - average.rate) else latest }

end MovingAverage

end MetricAggregation
