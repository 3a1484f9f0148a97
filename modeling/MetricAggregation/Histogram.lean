import MetricAggregation.Sample.Reservoir

/-!
Histograms. Count, sum, extremes and variance cover every value that was recorded; percentiles are
computed from what a reservoir kept of them.
-/

namespace MetricAggregation

/-- The mean of some values and the sum of their squared deviations from it, kept up value by value. -/
structure Moments (α : Type) where
  mean : α
  deviation : α

/-- The moments after one more value, which is the `count`-th. -/
def Moments.add {α : Type} [Number α] (moments? : Option (Moments α)) (value : α) (count : Nat) :
    Moments α :=
  match moments? with
  | none => ⟨value, 0⟩
  | some moments =>
    let mean := moments.mean + (value - moments.mean) / (count : α)
    ⟨mean, moments.deviation + (value - moments.mean) * (value - mean)⟩

/-- A histogram over a reservoir. -/
structure Histogram (α : Type) where
  reservoir : Reservoir α
  count : Nat
  sum : α
  least? : Option α
  greatest? : Option α
  moments? : Option (Moments α)

/-- Where a percentile falls among sorted values: on the first, on the last, or a fraction of the way from
the value at one position to the next. -/
inductive Rank (α : Type) where
  | first
  | last
  | between (position : Nat) (fraction : α)

namespace Rank

variable {α : Type} [Number α]

/-- The rank of a percentile among `count` values: `percentile * (count + 1)`, counted from one. -/
def of (percentile : α) (count : Nat) : Rank α :=
  let rank := percentile * ((count + 1 : Nat) : α)
  if rank < 1 then .first
  else if (count : α) ≤ rank then .last
  else
    let whole := Number.floorNat rank
    .between (whole - 1) (rank - (whole : α))

def score (sorted : Array α) : Rank α → α
  | first => sorted.getD 0 0
  | last => sorted.getD (sorted.size - 1) 0
  | between position fraction =>
    let lower := sorted.getD position 0
    let upper := sorted.getD (position + 1) 0
    lower + fraction * (upper - lower)

end Rank

namespace Histogram

variable {α : Type} [Number α]

def ofReservoir (reservoir : Reservoir α) : Histogram α := ⟨reservoir, 0, 0, none, none, none⟩

def lesser (least? : Option α) (value : α) : α :=
  match least? with
  | some least => if least ≤ value then least else value
  | none => value

def greater (greatest? : Option α) (value : α) : α :=
  match greatest? with
  | some greatest => if value ≤ greatest then greatest else value
  | none => value

def update (histogram : Histogram α) (value now : α) : Histogram α where
  reservoir := histogram.reservoir.push value now
  count := histogram.count + 1
  sum := histogram.sum + value
  least? := some (lesser histogram.least? value)
  greatest? := some (greater histogram.greatest? value)
  moments? := some (Moments.add histogram.moments? value (histogram.count + 1))

/-- Removes every value, also those in the reservoir. -/
def clear (histogram : Histogram α) (now : α) : Histogram α :=
  ofReservoir (histogram.reservoir.clear now)

/-- The least value recorded. Without any values, this and every other statistic is zero. -/
def least (histogram : Histogram α) : α := histogram.least?.getD 0

def greatest (histogram : Histogram α) : α := histogram.greatest?.getD 0

def mean (histogram : Histogram α) : α :=
  if histogram.count = 0 then 0 else histogram.sum / (histogram.count : α)

/-- The variance of the values as a sample of a larger population. -/
def variance (histogram : Histogram α) : α :=
  match histogram.moments? with
  | some moments =>
    if 1 < histogram.count then moments.deviation / ((histogram.count - 1 : Nat) : α) else 0
  | none => 0

def standardDeviation (histogram : Histogram α) : α := Number.sqrt histogram.variance

def sortedValues (histogram : Histogram α) : Array α :=
  (histogram.reservoir.values.mergeSort Number.totalLE).toArray

/-- The score of a percentile, written as a fraction of one. What is not a number has no rank, and is its
own score. -/
def score (sorted : Array α) (percentile : α) : α :=
  if percentile ≤ percentile then (Rank.of percentile sorted.size).score sorted else percentile

def percentiles (histogram : Histogram α) (percentiles : List α) : List α :=
  let sorted := histogram.sortedValues
  if histogram.count = 0 || sorted.isEmpty then percentiles.map fun _ => 0
  else percentiles.map (score sorted)

end Histogram

end MetricAggregation
