import MetricAggregation.Double.Number
import MetricAggregation.Sample.PriorityHeap
import MetricAggregation.SizeError

/-!
Exponentially decaying samples. A value observed `t` seconds after the landmark gets the priority
`exp (alpha * t) / u`, where `u` is drawn from the unit interval, and the values with the highest
priorities are kept. So that priorities stay in range, the landmark is moved once an hour, and the
priorities are scaled to the new one.
-/

namespace MetricAggregation

/-- A sample of a stream of values that favours recent ones. Times are in seconds. -/
structure DecayingSample (α : Type) where
  capacity : Nat
  /-- How strongly recent values are favoured. -/
  alpha : α
  heap : PriorityHeap α
  /-- The number of values pushed since the last clear. -/
  count : Nat
  landmark : α

namespace DecayingSample

variable {α : Type} [Number α]

/-- How long a landmark serves, in seconds. -/
def rescaleThreshold : α := ((3600 : Nat) : α)

def empty (capacity : Nat) (alpha now : α) : DecayingSample α := ⟨capacity, alpha, .empty, 0, now⟩

def new? (capacity : Nat) (alpha now : α) : Except SizeError (DecayingSample α) :=
  if capacity = 0 then .error .emptyReservoir else .ok (empty capacity alpha now)

/-- Moves the landmark, and scales the priorities to it. -/
def rescale (sample : DecayingSample α) (landmark : α) : DecayingSample α :=
  { sample with
    landmark := landmark
    heap := sample.heap.scale (Number.exp (-sample.alpha * (landmark - sample.landmark))) }

def rescaleIfDue (sample : DecayingSample α) (time : α) : DecayingSample α :=
  if sample.landmark + rescaleThreshold ≤ time then sample.rescale time else sample

def priority (sample : DecayingSample α) (time unit : α) : α :=
  Number.exp (sample.alpha * (time - sample.landmark)) / unit

/-- Takes an entry into the heap, where a full one drops an entry of least priority for it. -/
def takeIn (sample : DecayingSample α) (entry : Weighted α) : PriorityHeap α :=
  if sample.heap.size < sample.capacity then sample.heap.insert entry
  else match sample.heap.least? with
    | some least =>
      if least.priority < entry.priority then sample.heap.removeLeast.insert entry else sample.heap
    | none => sample.heap

/-- Pushes a value observed at a time; `unit` has been drawn for it. -/
def push (sample : DecayingSample α) (value time unit : α) : DecayingSample α :=
  let sample := sample.rescaleIfDue time
  { sample with
    count := sample.count + 1
    heap := sample.takeIn ⟨sample.priority time unit, value⟩ }

/-- Removes every value, and makes the present the landmark. -/
def clear (sample : DecayingSample α) (now : α) : DecayingSample α :=
  empty sample.capacity sample.alpha now

def describe (sample : DecayingSample Double) : String :=
  let write := Decimal.Layout.debug.write
  "ExponentiallyDecayingSample \x7b capacity: " ++ toString sample.capacity ++
    ", alpha: " ++ write sample.alpha ++ ", count: " ++ toString sample.count ++
    ", size: " ++ toString sample.heap.size ++ ", start_time: " ++ write sample.landmark ++ " \x7d"

end DecayingSample

end MetricAggregation
