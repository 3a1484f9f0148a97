import MetricAggregation.Random.Words

/-!
Hashes of byte strings by a table of random words. Every byte stirs its word into the hash, and each step
can be undone, so no byte's influence is lost.
-/

namespace MetricAggregation

/-- A hash function, as the table of the words that the bytes stir in. -/
structure SBox where
  words : Vector UInt32 256

namespace SBox

def word (box : SBox) (byte : UInt8) : UInt32 := box.words.get ⟨byte.toNat, byte.toNat_lt⟩

def step (box : SBox) (hash : UInt32) (byte : UInt8) : UInt32 := (hash ^^^ box.word byte) * 3

def hash (box : SBox) (bytes : List UInt8) : UInt32 := bytes.foldl box.step 0

/-- The hash function that a seed stands for. Its words are uniform below the greatest word. -/
def ofSeed (seed : UInt64) : SBox :=
  let words : StateM Random.Xoshiro (Vector UInt32 256) :=
    (Vector.replicate 256 ()).mapM fun _ => Random.Xoshiro.below (0xFFFFFFFF)
  ⟨(words.run (.ofSeed seed)).1⟩

end SBox

end MetricAggregation
