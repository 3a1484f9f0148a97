import MetricAggregation.Random.Draw
import MetricAggregation.Sample.Decaying
import MetricAggregation.Sample.Uniform

/-!
Reservoirs: a sample of either flavour, together with the random draws that decide what it keeps.
-/

namespace MetricAggregation

/-- A bounded sample of a stream of values. -/
inductive Sample (α : Type) where
  | uniform (sample : UniformSample α)
  | decaying (sample : DecayingSample α)

namespace Sample

variable {α : Type}

/-- The values held, in no particular order. -/
def values : Sample α → List α
  | uniform sample => sample.values.toList
  | decaying sample => sample.heap.values

def size : Sample α → Nat
  | uniform sample => sample.values.size
  | decaying sample => sample.heap.size

def count : Sample α → Nat
  | uniform sample => sample.count
  | decaying sample => sample.count

variable [Number α]

/-- Pushes a value at a time, with the outcome that was drawn for it. -/
def push (sample : Sample α) (value now : α) (draw : Draw α) : Sample α :=
  match sample with
  | uniform sample => .uniform (sample.push value (draw.slot (sample.count + 1)))
  | decaying sample => .decaying (sample.push value now draw.unit)

def clear (sample : Sample α) (now : α) : Sample α :=
  match sample with
  | uniform sample => .uniform sample.clear
  | decaying sample => .decaying (sample.clear now)

end Sample

/-- A sample with the sequence of its draws, of which a number have been used. -/
structure Reservoir (α : Type) where
  sample : Sample α
  draws : Nat → Draw α
  drawn : Nat

namespace Reservoir

/-- How many values a reservoir holds unless it is told otherwise: enough for a level of confidence of
99.9 % with an error of 5 % on normally distributed values. -/
def defaultSize : Nat := 1028

variable {α : Type}

def ofSample (sample : Sample α) (draws : Nat → Draw α) : Reservoir α := ⟨sample, draws, 0⟩

def uniform (draws : Nat → Draw α) : Reservoir α := ofSample (.uniform (.empty defaultSize)) draws

/-- The values held, in no particular order. -/
def values (reservoir : Reservoir α) : List α := reservoir.sample.values

def size (reservoir : Reservoir α) : Nat := reservoir.sample.size

variable [Number α]

/-- The decay factor unless another is given: most of the sample is from the last five minutes. -/
def defaultAlpha : α := Number.ofDecimal 15 (-3)

def decaying (now : α) (draws : Nat → Draw α) : Reservoir α :=
  ofSample (.decaying (.empty defaultSize defaultAlpha now)) draws

def push (reservoir : Reservoir α) (value now : α) : Reservoir α :=
  { reservoir with
    sample := reservoir.sample.push value now (reservoir.draws reservoir.drawn)
    drawn := reservoir.drawn + 1 }

/-- Removes every value. Draws that have been used stay used. -/
def clear (reservoir : Reservoir α) (now : α) : Reservoir α :=
  { reservoir with sample := reservoir.sample.clear now }

end Reservoir

end MetricAggregation
