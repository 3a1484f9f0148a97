import MetricAggregation.Number
import MetricAggregation.Random.Words

/-!
Random draws. A sample is given the sequence of its draws, so that what it keeps is a function of that
sequence and of the values put into it.
-/

namespace MetricAggregation

/-- One random outcome, which a sample reads in the way it needs. -/
structure Draw (α : Type) where
  /-- An index below a positive bound. -/
  slot : Nat → Nat
  /-- A number above zero and up to one. -/
  unit : α

def Draw.ofWord {α : Type} [Number α] (word : UInt64) : Draw α where
  slot bound := word.toNat % bound
  unit := ((word.toNat / 0x800 + 1 : Nat) : α) / ((0x20000000000000 : Nat) : α)

/-- The draws that a seed stands for, by their positions. -/
def Draw.ofSeed {α : Type} [Number α] (seed : UInt64) (index : Nat) : Draw α :=
  .ofWord (Random.SplitMix.word seed index)

end MetricAggregation
