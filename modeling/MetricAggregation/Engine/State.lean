import MetricAggregation.Metric.Counter
import MetricAggregation.Metric.GaugeQueue
import MetricAggregation.Metric.Meter
import MetricAggregation.Metric.Timer
import MetricAggregation.Plugin.Registry
import MetricAggregation.Stopwatch
import MetricAggregation.Telemetry

/-!
The state of an aggregation engine. Counters, timers, gauges, meters and every further metric type have
their own tables, so the same key may be used for all of them. A metric is there from the first valid
message for it, and stays.
-/

namespace MetricAggregation

/-- The stems of the paths that an engine reports under, and how its timers sample. -/
structure Settings where
  statsStem : String
  countStem : String
  internalStem : String
  policy : ReservoirPolicy

namespace Settings

def default : Settings := ⟨"stats", "stats_counts", "statsd", .resetOnFlush⟩

def ratePath (settings : Settings) (key : String) : String := joinPath settings.statsStem key

def countPath (settings : Settings) (key : String) : String := joinPath settings.countStem key

def timerPath (settings : Settings) (key : String) : String :=
  joinPath (joinPath settings.statsStem "timers") key

def gaugeStem (settings : Settings) : String := joinPath settings.statsStem "gauge"

def meterPath (settings : Settings) (key : String) : String :=
  joinPath (joinPath settings.statsStem "meter") key

/-- Where a metric of a further type is reported, by the name of its factory. -/
def address (settings : Settings) (factory key : String) : Address :=
  ⟨joinPath settings.statsStem factory, key⟩

end Settings

/-- Everything random in an engine: the draws of every timer, by its key, and the hash functions of every
metric of a further type, by its tag and key. -/
structure Chance (α : Type) where
  draws : String → Nat → Draw α
  boxes : String → String → Nat → SBox

/-- The random choices that a seed stands for. -/
def Chance.ofSeed {α : Type} [Number α] (seed : UInt64) : Chance α where
  draws key := Draw.ofSeed (seed ^^^ hash key)
  boxes tag key index := SBox.ofSeed (Random.SplitMix.word (seed ^^^ mixHash (hash tag) (hash key)) index)

/-- An aggregation engine. Its wall clock counts seconds, and its stopwatch measures work; both are moved
from outside, the stopwatch also by the work of metrics that take time. -/
structure Engine (α φ μ : Type) where
  settings : Settings
  chance : Chance α
  plugins : Registry φ
  counters : Table (Counter α)
  timers : Table (Timer α)
  gauges : GaugeQueue α
  meters : Table (Meter α)
  /-- The metrics of further types, by tag and key. -/
  extensions : Table (Table μ)
  received : ReceiveStats
  /-- The number of messages and updates discarded so far. -/
  badLines : Nat
  wallClock : α
  stopwatch : Stopwatch

namespace Engine

variable {α φ μ : Type}

def new (settings : Settings) (chance : Chance α) (plugins : Registry φ) (wallClock : α) :
    Engine α φ μ where
  settings := settings
  chance := chance
  plugins := plugins
  counters := .empty
  timers := .empty
  gauges := .empty
  meters := .empty
  extensions := .empty
  received := .empty
  badLines := 0
  wallClock := wallClock
  stopwatch := .zero

/-- The metric of a further type under a tag and a key. -/
def extension? (engine : Engine α φ μ) (tag key : String) : Option μ :=
  (engine.extensions.find? tag).bind fun metrics => metrics.find? key

/-- The keys of every metric seen so far, sorted and each once. Those of gauges are known until the next
flush. -/
def metricNames (engine : Engine α φ μ) : List String :=
  let keys := engine.counters.keys ++ engine.timers.keys ++ engine.meters.keys ++
    engine.extensions.entries.flatMap (fun entry => entry.2.keys) ++ engine.gauges.keys
  (keys.mergeSort fun left right => decide (left ≤ right)).eraseReps

end Engine

end MetricAggregation
