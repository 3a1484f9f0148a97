import MetricAggregation.Distinct.SBox
import MetricAggregation.Number
import MetricAggregation.SizeError

/-!
Estimates of how many distinct items were seen within a window of time. Every hash function has a row of
times: an item sets the time at the position given by the zeros at the end of its hash, so a position far
along a row is reached only if many items are about. How far the times of a row stay within the window
without a gap tells the number of items, and the rows are averaged.
-/

namespace MetricAggregation

/-- The number of zero bits below the lowest set bit of a word; none in a word without set bits. -/
def trailingZeros (word : UInt32) : Nat :=
  if word = 0 then 0 else ((List.range 32).takeWhile fun bit => !word.toNat.testBit bit).length

/-- A hash function and, for each number of zeros, when it was last hit. -/
structure SlidingRow (α : Type) where
  box : SBox
  times : List α

namespace SlidingRow

variable {α : Type} [Number α]

def empty (box : SBox) (buckets : Nat) : SlidingRow α := ⟨box, List.replicate buckets 0⟩

/-- The position that an item hits; the last one stands for all that are too far. -/
def position (row : SlidingRow α) (item : List UInt8) : Nat :=
  min (trailingZeros (row.box.hash item)) (row.times.length - 1)

def add (row : SlidingRow α) (time : α) (item : List UInt8) : SlidingRow α :=
  { row with times := row.times.set (row.position item) time }

/-- How many positions from the start of the row were hit after a time, up to the first that was not. -/
def run (row : SlidingRow α) (since : α) : Nat :=
  (row.times.takeWhile fun time => since < time).length

end SlidingRow

/-- A counter of distinct items. -/
structure SlidingCounter (α : Type) where
  rows : List (SlidingRow α)

namespace SlidingCounter

variable {α : Type} [Number α]

/-- A counter that has seen nothing, with a row for every hash function. -/
def empty (boxes : List SBox) (buckets : Nat) : SlidingCounter α :=
  ⟨boxes.map fun box => .empty box buckets⟩

/-- A counter that has seen nothing, if its size allows it to see something. -/
def new? (boxes : List SBox) (buckets : Nat) : Except SizeError (SlidingCounter α) :=
  if boxes.isEmpty then .error .noHashes
  else if buckets = 0 then .error .noBuckets
  else .ok (empty boxes buckets)

def add (counter : SlidingCounter α) (time : α) (item : List UInt8) : SlidingCounter α :=
  ⟨counter.rows.map fun row => row.add time item⟩

def totalRun (counter : SlidingCounter α) (since : α) : Nat :=
  counter.rows.foldl (fun total row => total + row.run since) 0

/-- By how much the power of two of the average run exceeds the number of items. -/
def bias : α := Number.ofDecimal 77351 (-5)

/-- The number of items that a total run over a number of rows speaks for. -/
def estimate (α : Type) [Number α] (total rows : Nat) : Nat :=
  Number.floorNat (Number.round (Number.exp2 ((total : α) / (rows : α)) / bias))

def distinct (counter : SlidingCounter α) (since : α) : Nat :=
  estimate α (counter.totalRun since) counter.rows.length

end SlidingCounter

end MetricAggregation
