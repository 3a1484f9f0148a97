/-!
Sequences of random words. `SplitMix` gives the word at any position of the sequence that a seed starts;
`Xoshiro` goes through a longer sequence step by step.
-/

namespace MetricAggregation.Random

/-- Stirs a word, so that neighbouring words end far apart. -/
def SplitMix.mix (word : UInt64) : UInt64 :=
  let first := (word ^^^ (word >>> 30)) * 0xBF58476D1CE4E5B9
  let second := (first ^^^ (first >>> 27)) * 0x94D049BB133111EB
  second ^^^ (second >>> 31)

/-- The word at a position of the sequence that a seed starts. -/
def SplitMix.word (seed : UInt64) (index : Nat) : UInt64 :=
  mix (seed + UInt64.ofNat (index + 1) * 0x9E3779B97F4A7C15)

/-- The state of the generator xoshiro256**. -/
structure Xoshiro where
  first : UInt64
  second : UInt64
  third : UInt64
  fourth : UInt64

namespace Xoshiro

/-- The state that a seed stands for: the first four words of its sequence. -/
def ofSeed (seed : UInt64) : Xoshiro :=
  ⟨SplitMix.word seed 0, SplitMix.word seed 1, SplitMix.word seed 2, SplitMix.word seed 3⟩

/-- Turns a word to the left by a number of bits between 1 and 63. -/
def rotateLeft (word bits : UInt64) : UInt64 := (word <<< bits) ||| (word >>> (64 - bits))

/-- The next word, and the state after it. -/
def next (state : Xoshiro) : UInt64 × Xoshiro :=
  let word := rotateLeft (state.second * 5) 7 * 9
  let third := state.third ^^^ state.first
  let fourth := state.fourth ^^^ state.second
  (word, ⟨state.first ^^^ fourth, state.second ^^^ third, third ^^^ (state.second <<< 17),
    rotateLeft fourth 45⟩)

def next32 (state : Xoshiro) : Nat × Xoshiro :=
  let (word, state) := state.next
  (word.toNat / 0x100000000, state)

/-- A word that is uniform below a positive bound of at most 32 bits: the whole part of a random fraction
of the bound. A second word extends the fraction where its end could still carry into the whole part. -/
def below (bound : Nat) (state : Xoshiro) : UInt32 × Xoshiro :=
  let (word, state) := state.next32
  let whole := word * bound / 0x100000000
  let fraction := word * bound % 0x100000000
  if fraction ≤ 0x100000000 - bound then (whole.toUInt32, state)
  else
    let (word, state) := state.next32
    let carry := (fraction + word * bound / 0x100000000) / 0x100000000
    ((whole + carry).toUInt32, state)

end Xoshiro

end MetricAggregation.Random
