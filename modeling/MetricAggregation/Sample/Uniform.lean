import MetricAggregation.Number
import MetricAggregation.SizeError

/-!
Uniform samples. The first values fill the sample; after that, the value pushed as the `n`-th takes the
place of the slot that is drawn for it out of `n`, if there is one. So every value is kept with the same
chance.
-/

namespace MetricAggregation

/-- A uniform sample of a stream of values. -/
structure UniformSample (α : Type) where
  capacity : Nat
  values : Array α
  /-- The number of values pushed since the last clear. -/
  count : Nat

namespace UniformSample

variable {α : Type}

def empty (capacity : Nat) : UniformSample α := ⟨capacity, #[], 0⟩

def new? (capacity : Nat) : Except SizeError (UniformSample α) :=
  if capacity = 0 then .error .emptyReservoir else .ok (empty capacity)

/-- Pushes a value; `slot` has been drawn out of as many slots as values have been pushed with it. -/
def push (sample : UniformSample α) (value : α) (slot : Nat) : UniformSample α :=
  { sample with
    count := sample.count + 1
    values :=
      if sample.count < sample.capacity then sample.values.push value
      else sample.values.setIfInBounds slot value }

def clear (sample : UniformSample α) : UniformSample α := empty sample.capacity

def rate [Number α] (sample : UniformSample α) : α :=
  if sample.count ≤ sample.capacity then 1 else (sample.capacity : α) / (sample.count : α)

end UniformSample

end MetricAggregation
