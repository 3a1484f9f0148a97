import MetricAggregation.Engine.State

/-!
How an engine is flushed: every kind of metric at once, its datapoints sorted by path, and then the
engine's report of its own work. All datapoints have one timestamp, the time in whole seconds.
-/

namespace MetricAggregation

/-- What the metrics of one kind report. -/
structure Segment (α : Type) where
  kind : FlushKind
  /-- The number of metrics, or of values for gauges. -/
  count : Nat
  points : List (Datapoint α)
  took : Nat

/-- What the metrics of further types report, by tag and key, each with the metric after that. -/
abbrev ExtensionReports (α μ : Type) := Table (Table (Timed (List (Datapoint α) × μ)))

namespace Engine

variable {α φ μ : Type} [Number α]

def counterSegment (engine : Engine α φ μ) (seconds : α) (timestamp : Nat) : Segment α where
  kind := .counter
  count := engine.counters.size
  points := sortByPath <| engine.counters.entries.flatMap fun (key, counter) =>
    counter.report (engine.settings.ratePath key) (engine.settings.countPath key) seconds timestamp
  took := 0

def busyTimers (engine : Engine α φ μ) : List (String × Timer α) :=
  engine.timers.entries.filter fun entry => !entry.2.isIdle

def timerSegment (engine : Engine α φ μ) (percent timestamp : Nat) : Segment α where
  kind := .timer
  count := engine.busyTimers.length
  points := sortByPath <| engine.busyTimers.flatMap fun (key, timer) =>
    timer.report (engine.settings.timerPath key) percent timestamp
  took := 0

def gaugeSegment (engine : Engine α φ μ) (timestamp : Nat) : Segment α where
  kind := .gauge
  count := engine.gauges.size
  points := sortByPath (engine.gauges.report engine.settings.gaugeStem timestamp)
  took := 0

def meterSegment (engine : Engine α φ μ) (timestamp : Nat) : Segment α where
  kind := .meter
  count := engine.meters.size
  points := sortByPath <| engine.meters.entries.flatMap fun (key, meter) =>
    meter.report (engine.settings.meterPath key) engine.wallClock timestamp
  took := 0

variable [MetricFactory φ] [MetricPlugin φ μ α]

def factoryName (engine : Engine α φ μ) (tag : String) : String :=
  ((engine.plugins.find? tag).map MetricFactory.name).getD tag

/-- Flushes the metric of a further type under a tag and a key. -/
def flushExtension (engine : Engine α φ μ) (seconds : α) (timestamp : Nat) (tag key : String)
    (metric : μ) : Timed (List (Datapoint α) × μ) :=
  MetricPlugin.flush φ metric (engine.settings.address (engine.factoryName tag) key) engine.wallClock
    seconds timestamp

def flushExtensions (engine : Engine α φ μ) (seconds : α) (timestamp : Nat) : ExtensionReports α μ :=
  engine.extensions.mapKeyed fun tag metrics =>
    metrics.mapKeyed (engine.flushExtension seconds timestamp tag)

end Engine

def ExtensionReports.segment {α μ : Type} (reports : ExtensionReports α μ) : Segment α :=
  let all := reports.values.flatMap Table.values
  { kind := .plugin
    count := all.length
    points := sortByPath (all.flatMap fun report => report.value.1)
    took := all.foldl (fun total report => total + report.took) 0 }

def ExtensionReports.metrics {α μ : Type} (reports : ExtensionReports α μ) : Table (Table μ) :=
  reports.map fun metrics => metrics.map fun report => report.value.2

/-- The work of a flush, timed by a stopwatch. -/
def FlushStats.ofSegments {α : Type} (watch : Stopwatch) (segments : List (Segment α)) : FlushStats :=
  segments.foldl (fun stats segment =>
    stats.record segment.kind segment.count (watch.timeOf segment.took).nanoseconds) .zero

namespace Engine

variable {α φ μ : Type} [Number α]

/-- A duration in milliseconds, as it is reported. -/
def reportedTime (time : Duration) : α := Number.roundToMicro (time.milliseconds α)

/-- The count and the time of some work, under a path. -/
def tallyPoints (path : String) (tally : Tally) (timestamp : Nat) : List (Datapoint α) :=
  [⟨path ++ ".count", (tally.count : α), timestamp⟩,
    ⟨path ++ ".duration", reportedTime tally.time, timestamp⟩]

/-- The engine's report of its own work: how many metrics were flushed, those of each kind, and the
messages of each tag that were received. -/
def summary (engine : Engine α φ μ) (stats : FlushStats) (timestamp : Nat) : List (Datapoint α) :=
  let stem := engine.settings.internalStem
  ⟨joinPath stem "numStats", (stats.total : α), timestamp⟩ ::
    (FlushKind.all.flatMap fun kind =>
      tallyPoints (joinPath stem ("flush." ++ kind.name)) (stats.tally kind) timestamp) ++
    (engine.received.sorted.flatMap fun (tag, tally) =>
      tallyPoints (joinPath stem ("receive." ++ tag)) tally timestamp)

/-- What the metrics of each kind report, in the order of a flush. -/
def segments (engine : Engine α φ μ) (extensions : ExtensionReports α μ) (seconds : α)
    (percent timestamp : Nat) : List (Segment α) :=
  [engine.counterSegment seconds timestamp, engine.timerSegment percent timestamp,
    engine.gaugeSegment timestamp, engine.meterSegment timestamp, extensions.segment]

/-- The engine after a flush. Counters and gauges start anew, timers that reported start a new interval,
and meters go on. -/
def flushed (engine : Engine α φ μ) (extensions : ExtensionReports α μ) (timestamp : Nat) :
    Engine α φ μ :=
  { engine with
    counters := engine.counters.map fun _ => .zero
    timers := engine.timers.map fun timer =>
      if timer.isIdle then timer else timer.flushed timestamp engine.wallClock
    gauges := .empty
    extensions := extensions.metrics
    received := .empty
    stopwatch := engine.stopwatch.advance extensions.segment.took }

/-- Flushes every metric. The interval is the time since the flush before, and the per cent chooses one of
the quantiles of timers. -/
def flush [MetricFactory φ] [MetricPlugin φ μ α] (engine : Engine α φ μ) (interval : Duration)
    (percent : Nat) : List (Datapoint α) × Engine α φ μ :=
  let timestamp := Number.floorNat engine.wallClock
  let seconds := interval.seconds α
  let extensions := engine.flushExtensions seconds timestamp
  let segments := engine.segments extensions seconds percent timestamp
  (segments.flatMap Segment.points ++ engine.summary (.ofSegments engine.stopwatch segments) timestamp,
    engine.flushed extensions timestamp)

end Engine

end MetricAggregation
