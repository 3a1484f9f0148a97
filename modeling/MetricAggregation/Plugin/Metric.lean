import MetricAggregation.ConfigError
import MetricAggregation.Datapoint
import MetricAggregation.Distinct.SBox
import MetricAggregation.Message
import MetricAggregation.Plugin.Options

/-!
Metric types beyond the usual ones. Each is a factory, which handles the messages with its tag and builds
a metric for every key among them.
-/

namespace MetricAggregation

/-- A result, and how many nanoseconds it took. -/
structure Timed (β : Type) where
  value : β
  took : Nat

/-- Where a metric reports: the path of its kind, and its own name under that. -/
structure Address where
  stem : String
  name : String

def Address.path (address : Address) : String := joinPath address.stem address.name

/-- How the factories of further metric types are told apart and configured. -/
class MetricFactory (φ : Type) where
  /-- The part of the path under which the metrics of a factory report. -/
  name : φ → String
  /-- The tag of the messages that a factory handles. -/
  tag : φ → String
  /-- Takes up options. -/
  configure : φ → Options → Except ConfigError φ

/-- What the factories in `φ` build: the metrics in `μ`, which work with the numbers in `α`. -/
class MetricPlugin (φ : Type) (μ : outParam Type) (α : Type) where
  /-- Builds a metric at a time. The numbered hash functions are its own. -/
  build : φ → Address → α → (Nat → SBox) → μ
  /-- Takes in the fields of a message at a time. -/
  process : μ → α → Fields → Timed (Except MessageError μ)
  /-- What a metric reports at a time for an interval in seconds, with the timestamp that it reports by,
  and the metric after that. -/
  flush : μ → Address → α → α → Nat → Timed (List (Datapoint α) × μ)

/-- There need not be any further metric types. -/
instance : MetricFactory Empty where
  name := Empty.elim
  tag := Empty.elim
  configure factory := factory.elim

instance {α : Type} : MetricPlugin Empty Empty α where
  build factory := factory.elim
  process metric := metric.elim
  flush metric := metric.elim

/-- Two families of metric types make one. -/
instance {φ ψ : Type} [MetricFactory φ] [MetricFactory ψ] : MetricFactory (φ ⊕ ψ) where
  name := Sum.elim MetricFactory.name MetricFactory.name
  tag := Sum.elim MetricFactory.tag MetricFactory.tag
  configure
    | .inl factory, options => (MetricFactory.configure factory options).map .inl
    | .inr factory, options => (MetricFactory.configure factory options).map .inr

instance {φ μ ψ ν α : Type} [MetricPlugin φ μ α] [MetricPlugin ψ ν α] :
    MetricPlugin (φ ⊕ ψ) (μ ⊕ ν) α where
  build
    | .inl factory, address, now, boxes => .inl (MetricPlugin.build factory address now boxes)
    | .inr factory, address, now, boxes => .inr (MetricPlugin.build factory address now boxes)
  process
    | .inl metric, now, fields =>
      let outcome := MetricPlugin.process φ metric now fields
      ⟨outcome.value.map .inl, outcome.took⟩
    | .inr metric, now, fields =>
      let outcome := MetricPlugin.process ψ metric now fields
      ⟨outcome.value.map .inr, outcome.took⟩
  flush
    | .inl metric, address, now, seconds, timestamp =>
      let outcome := MetricPlugin.flush φ metric address now seconds timestamp
      ⟨(outcome.value.1, .inl outcome.value.2), outcome.took⟩
    | .inr metric, address, now, seconds, timestamp =>
      let outcome := MetricPlugin.flush ψ metric address now seconds timestamp
      ⟨(outcome.value.1, .inr outcome.value.2), outcome.took⟩

end MetricAggregation
