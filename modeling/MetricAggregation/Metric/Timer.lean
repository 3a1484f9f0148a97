import MetricAggregation.Datapoint
import MetricAggregation.Histogram
import MetricAggregation.Quantile

/-!
Timers: how durations are distributed, and how many there are.
-/

namespace MetricAggregation

/-- How the sample of a timer goes on from one flush to the next. -/
inductive ReservoirPolicy where
  /-- The sample is uniform and cleared by every flush, so that a flush describes the interval before it. -/
  | resetOnFlush
  /-- The sample decays and is never cleared, so that a flush describes about the last five minutes. -/
  | continuous
deriving DecidableEq, Repr

/-- A timer. Durations are in milliseconds, times in seconds. -/
structure Timer (α : Type) where
  policy : ReservoirPolicy
  histogram : Histogram α
  /-- The durations since the last flush. -/
  count : Nat
  /-- Those of them that are in the histogram. -/
  recorded : Nat
  lastFlush : α

namespace Timer

variable {α : Type} [Number α]

/-- A timer that starts at a time and samples by the given draws. -/
def new (policy : ReservoirPolicy) (now : α) (draws : Nat → Draw α) : Timer α where
  policy := policy
  histogram := .ofReservoir <| match policy with
    | .resetOnFlush => .uniform draws
    | .continuous => .decaying now draws
  count := 0
  recorded := 0
  lastFlush := now

/-- Takes in a duration. A negative one is counted and otherwise ignored. -/
def update (timer : Timer α) (duration now : α) : Timer α :=
  if 0 ≤ duration then
    { timer with
      histogram := timer.histogram.update duration now
      count := timer.count + 1
      recorded := timer.recorded + 1 }
  else { timer with count := timer.count + 1 }

/-- Whether there is nothing to report. Only a timer that is reset can be idle. -/
def isIdle (timer : Timer α) : Bool := timer.policy = .resetOnFlush && timer.count = 0

def quantiles : List (Quantile α) :=
  [⟨Number.ofDecimal 5 (-1), "median"⟩, ⟨Number.ofDecimal 75 (-2), "75percentile"⟩,
    ⟨Number.ofDecimal 95 (-2), "95percentile"⟩, ⟨Number.ofDecimal 98 (-2), "98percentile"⟩,
    ⟨Number.ofDecimal 99 (-2), "99percentile"⟩, ⟨Number.ofDecimal 999 (-3), "999percentile"⟩]

def upperQuantile (percent : Nat) : Quantile α :=
  ⟨(percent : α) / ((100 : Nat) : α), "upper_" ++ toString percent⟩

/-- Recorded durations per second of the time since the last flush; none if no time has passed. -/
def rate (timer : Timer α) (now : α) : α :=
  let elapsed := now - timer.lastFlush
  if 0 < elapsed then (timer.recorded : α) / elapsed else 0

/-- What a flush at a time reports, before rounding, under the names that it reports it by. -/
def statistics (timer : Timer α) (percent : Nat) (now : α) : List (String × α) :=
  let histogram := timer.histogram
  let asked : List (Quantile α) := upperQuantile percent :: quantiles
  [("count", (timer.count : α)), ("max", histogram.greatest), ("mean", histogram.mean),
    ("min", histogram.least), ("rate", timer.rate now), ("stddev", histogram.standardDeviation)] ++
  (asked.map Quantile.label).zip (histogram.percentiles (asked.map Quantile.value))

/-- What a flush reports under a path, sorted. -/
def report (timer : Timer α) (path : String) (percent timestamp : Nat) : List (Datapoint α) :=
  sortByPath <| (timer.statistics percent (timestamp : α)).map fun entry =>
    ⟨joinPath path entry.1, Number.roundToMicro entry.2, timestamp⟩

/-- The timer after a flush with a timestamp, at a time. -/
def flushed (timer : Timer α) (timestamp : Nat) (now : α) : Timer α where
  policy := timer.policy
  histogram := match timer.policy with
    | .resetOnFlush => timer.histogram.clear now
    | .continuous => timer.histogram
  count := 0
  recorded := 0
  lastFlush := (timestamp : α)

end Timer

end MetricAggregation
