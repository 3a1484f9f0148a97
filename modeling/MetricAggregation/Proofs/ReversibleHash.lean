import Mathlib.Logic.Function.Basic
import MetricAggregation.Distinct.SBox

/-!
What a hash keeps apart. Every step can be undone by whoever knows its byte, so two byte strings that are told apart
stay apart, whatever comes behind both of them.
-/

namespace MetricAggregation

namespace SBox

variable (box : SBox)

/-- The factor of a step has an inverse among the words, for it is odd. -/
theorem mul_three_inj {first second : UInt32} : first * 3 = second * 3 ↔ first = second := by
  have inverse : (3 : UInt32) * 0xAAAAAAAB = 1 := rfl
  constructor
  · intro same
    calc first = first * 3 * 0xAAAAAAAB := by rw [UInt32.mul_assoc, inverse, UInt32.mul_one]
      _ = second * 3 * 0xAAAAAAAB := by rw [same]
      _ = second := by rw [UInt32.mul_assoc, inverse, UInt32.mul_one]
  · exact fun same => congrArg (· * 3) same

theorem step_left_inj (byte : UInt8) {first second : UInt32} :
    box.step first byte = box.step second byte ↔ first = second :=
  mul_three_inj.trans (UInt32.xor_left_inj (box.word byte))

theorem step_right_inj (hash : UInt32) {first second : UInt8} :
    box.step hash first = box.step hash second ↔ box.word first = box.word second :=
  mul_three_inj.trans (UInt32.xor_right_inj hash)

/-- Where the steps of some bytes end tells where they began. -/
theorem foldl_step_inj (bytes : List UInt8) : ∀ {first second : UInt32},
    bytes.foldl box.step first = bytes.foldl box.step second ↔ first = second := by
  induction bytes with
  | nil => exact Iff.rfl
  | cons byte rest ih => exact ih.trans (box.step_left_inj byte)

theorem hash_append_inj {first second : List UInt8} (after : List UInt8) :
    box.hash (first ++ after) = box.hash (second ++ after) ↔ box.hash first = box.hash second := by
  rw [hash, hash, List.foldl_append, List.foldl_append]
  exact box.foldl_step_inj after

theorem hash_concat_inj (before : List UInt8) {first second : UInt8} :
    box.hash (before ++ [first]) = box.hash (before ++ [second]) ↔ box.word first = box.word second := by
  rw [hash, hash, List.foldl_append, List.foldl_append]
  exact box.step_right_inj _

/-- Bytes are the places of the table, so its words are distinct exactly if those of the bytes are. -/
theorem word_injective_iff : Function.Injective box.word ↔ Function.Injective box.words.get := by
  constructor
  · intro distinct first second same
    have bytes : UInt8.ofFin first = UInt8.ofFin second := distinct same
    exact congrArg UInt8.toFin bytes
  · intro distinct first second same
    exact UInt8.toNat_inj.mp (Fin.mk.inj (distinct same))

/-- Bytes behind two byte strings neither join their hashes nor part them. So the hashes of two strings that differ in
one byte, wherever it stands, are equal exactly if the words of the two bytes are, and changing one byte always changes
the hash exactly if the words of the table are distinct. -/
theorem hash_change_iff :
    (∀ first second after : List UInt8,
      box.hash (first ++ after) = box.hash (second ++ after) ↔ box.hash first = box.hash second) ∧
      (∀ (before after : List UInt8) (first second : UInt8),
        box.hash (before ++ [first] ++ after) = box.hash (before ++ [second] ++ after) ↔
          box.word first = box.word second) ∧
      (Function.Injective box.words.get ↔ ∀ (before after : List UInt8) (first second : UInt8), first ≠ second →
        box.hash (before ++ [first] ++ after) ≠ box.hash (before ++ [second] ++ after)) := by
  have change (before after : List UInt8) (first second : UInt8) :
      box.hash (before ++ [first] ++ after) = box.hash (before ++ [second] ++ after) ↔
        box.word first = box.word second :=
    (box.hash_append_inj after).trans (box.hash_concat_inj before)
  refine ⟨fun _ _ after => box.hash_append_inj after, change, ?_⟩
  rw [← box.word_injective_iff]
  constructor
  · intro distinct before after first second other same
    exact other (distinct ((change before after first second).mp same))
  · intro changes first second same
    by_contra other
    exact changes [] [] first second other ((change [] [] first second).mpr same)

end SBox

end MetricAggregation
