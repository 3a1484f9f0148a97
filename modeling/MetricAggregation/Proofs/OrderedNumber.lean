import Mathlib
import MetricAggregation.Proofs.ExactNumber
import MetricAggregation.Double.Number

/-!
Comparisons of numbers. Of doubles too, those that hold are those of an order: a double that is not undefined has a place
in a linear order, and an undefined one is not compared at all.
-/

namespace MetricAggregation

/-- Numbers whose comparisons, where they hold, are those of an order. -/
class OrderedNumber (α : Type) [Number α] : Prop where
  lt_of_lt_of_le {low middle high : α} : low < middle → middle ≤ high → low < high
  lt_of_le_of_lt {low middle high : α} : low ≤ middle → middle < high → low < high
  not_lt_of_le {low high : α} : low ≤ high → ¬high < low

instance {α : Type} [ExactNumber α] : OrderedNumber α where
  lt_of_lt_of_le := lt_of_lt_of_le
  lt_of_le_of_lt := lt_of_le_of_lt
  not_lt_of_le := not_lt_of_ge

namespace Double

open Float.Model (UnpackedFloat Format)
open Float.Model.UnpackedFloat (unpackExponent unpackMantissa)

/-- Where a number stands among all others: by its sign, then by its exponent, then by its mantissa. An undefined
value stands nowhere. -/
def placeOf : UnpackedFloat → Option (ℤ ×ₗ ℤ ×ₗ ℤ)
  | .notANumber => none
  | .infinity .negative => some (toLex (-2, toLex (0, 0)))
  | .finite .negative mantissa exponent _ => some (toLex (-1, toLex (-exponent, -mantissa)))
  | .zero _ => some (toLex (0, toLex (0, 0)))
  | .finite .positive mantissa exponent _ => some (toLex (1, toLex (exponent, mantissa)))
  | .infinity .positive => some (toLex (2, toLex (0, 0)))

theorem compare_eq_lt_iff {left right : UnpackedFloat} :
    left.compare right = some .lt ↔ ∃ below ∈ placeOf left, ∃ above ∈ placeOf right, below < above := by
  rcases left with (_ | _) | _ | (_ | _) | ⟨_ | _, _, _, _⟩ <;>
    rcases right with (_ | _) | _ | (_ | _) | ⟨_ | _, _, _, _⟩ <;>
    simp [placeOf, UnpackedFloat.compare, Prod.Lex.toLex_lt_toLex, Ordering.then_eq_lt, Ordering.then_eq_gt,
      compare_lt_iff_lt, compare_gt_iff_gt]
  case infinity.negative.infinity.positive => rfl

theorem compare_eq_eq_iff {left right : UnpackedFloat} :
    left.compare right = some .eq ↔ ∃ place ∈ placeOf left, ∃ other ∈ placeOf right, place = other := by
  rcases left with (_ | _) | _ | (_ | _) | ⟨_ | _, _, _, _⟩ <;>
    rcases right with (_ | _) | _ | (_ | _) | ⟨_ | _, _, _, _⟩ <;>
    simp [placeOf, UnpackedFloat.compare, Ordering.then_eq_eq]
  case infinity.negative.infinity.negative | infinity.positive.infinity.positive => rfl
  case finite.negative.finite.negative | finite.positive.finite.positive => exact and_congr eq_comm eq_comm

theorem placeOf_eq_none_iff (value : UnpackedFloat) : placeOf value = none ↔ value = .notANumber := by
  rcases value with (_ | _) | _ | (_ | _) | ⟨_ | _, _, _, _⟩ <;> simp [placeOf]

theorem unpack_eq_notANumber_iff (bits : BitVec Format.binary64.numBits) :
    UnpackedFloat.unpack .binary64 bits = .notANumber ↔
      unpackExponent bits = -1#_ ∧ unpackMantissa bits ≠ 0#_ := by
  unfold UnpackedFloat.unpack
  dsimp only
  split
  · rename_i exponent
    split
    · rename_i mantissa
      simp [mantissa]
    · rename_i mantissa
      simp [exponent, mantissa]
  · rename_i exponent
    simp only [exponent, false_and, iff_false]
    split
    · split <;> nofun
    · nofun

/-- Packing makes no number undefined, also none that is too large to be packed. -/
theorem unpack_pack_eq_notANumber_iff (value : UnpackedFloat) :
    UnpackedFloat.unpack .binary64 (value.pack .binary64) = .notANumber ↔ value = .notANumber := by
  rw [unpack_eq_notANumber_iff]
  cases value with
  | notANumber => simp [UnpackedFloat.pack, UnpackedFloat.packedNaN]
  | infinity sign => simp [UnpackedFloat.pack, UnpackedFloat.packedInfinity]
  | zero sign => simp [UnpackedFloat.pack, UnpackedFloat.packedZero]
  | finite sign mantissa exponent positive =>
      unfold UnpackedFloat.pack
      dsimp only
      split
      · simp [UnpackedFloat.packedInfinity]
      · rename_i inRange
        split
        · have notAll {biased : Nat} (below : ¬2 ^ 11 ≤ biased + 1) : BitVec.ofNat 11 biased ≠ -1#11 := by
            intro same
            have numbers := congrArg BitVec.toNat same
            have all : (-1#11 : BitVec 11).toNat = 2047 := rfl
            rw [BitVec.toNat_ofNat, all] at numbers
            omega
          rw [UnpackedFloat.unpackExponent_packComponents]
          exact iff_of_false (fun full => notAll inRange full.1) nofun
        · simp

def place? (value : Double) : Option (ℤ ×ₗ ℤ ×ₗ ℤ) := placeOf value.toFloat.toModel.unpack

theorem place?_eq_none_iff (value : Double) : value.place? = none ↔ value.isUndefined := by
  have packed : value.toFloat.toModel.unpack = UnpackedFloat.unpack .binary64
      ((UnpackedFloat.unpack .binary64 value.bits.toBitVec).pack .binary64) := rfl
  have ones : (~~~signBit).toNat = 2 ^ 63 - 1 := rfl
  have infinite : infinityBits.toNat = 2047 * 2 ^ 52 := rfl
  have magnitude : value.magnitude.toNat = value.bits.toNat % 2 ^ 63 := by
    rw [Double.magnitude, UInt64.toNat_and, ones, Nat.and_two_pow_sub_one_eq_mod]
  have exponent : @unpackExponent .binary64 value.bits.toBitVec = -1#_ ↔
      value.bits.toNat / 2 ^ 52 % 2 ^ 11 = 2047 := by
    rw [← BitVec.toNat_inj]
    simp [unpackExponent, Nat.shiftRight_eq_div_pow]
  have mantissa : @unpackMantissa .binary64 value.bits.toBitVec = 0#_ ↔ value.bits.toNat % 2 ^ 52 = 0 := by
    rw [← BitVec.toNat_inj]
    simp [unpackMantissa, Nat.shiftRight_eq_div_pow]
  rw [place?, placeOf_eq_none_iff, packed, unpack_pack_eq_notANumber_iff, unpack_eq_notANumber_iff, exponent, ne_eq,
    mantissa, isUndefined, decide_eq_true_iff, UInt64.lt_iff_toNat_lt, magnitude, infinite]
  omega

theorem exists_place {value : Double} (defined : value.isUndefined = false) : ∃ place, place ∈ value.place? := by
  apply Option.ne_none_iff_exists'.mp
  rw [ne_eq, place?_eq_none_iff, defined]
  exact Bool.false_ne_true

theorem lt_iff {left right : Double} :
    left < right ↔ ∃ below ∈ left.place?, ∃ above ∈ right.place?, below < above := by
  rw [place?, place?, ← compare_eq_lt_iff]
  change decide (UnpackedFloat.lt _ _ = true) = true ↔ _
  rw [decide_eq_true_iff, UnpackedFloat.lt, beq_iff_eq]

theorem le_iff {left right : Double} :
    left ≤ right ↔ ∃ below ∈ left.place?, ∃ above ∈ right.place?, below ≤ above := by
  simp only [place?, le_iff_lt_or_eq, and_or_left, exists_or, ← compare_eq_lt_iff, ← compare_eq_eq_iff]
  change decide (UnpackedFloat.le _ _ = true) = true ↔ _
  rw [decide_eq_true_iff, UnpackedFloat.le]
  rcases UnpackedFloat.compare _ _ with _ | (_ | _ | _) <;> simp

theorem le_trans {low middle high : Double} (first : low ≤ middle) (second : middle ≤ high) : low ≤ high := by
  obtain ⟨lowest, lowPlace, between, middlePlace, below⟩ := le_iff.mp first
  obtain ⟨other, otherPlace, highest, highPlace, above⟩ := le_iff.mp second
  obtain rfl : between = other := Option.mem_unique middlePlace otherPlace
  exact le_iff.mpr ⟨lowest, lowPlace, highest, highPlace, below.trans above⟩

theorem le_total {left right : Double} (leftDefined : left.isUndefined = false)
    (rightDefined : right.isUndefined = false) : left ≤ right ∨ right ≤ left := by
  obtain ⟨place, found⟩ := exists_place leftDefined
  obtain ⟨other, otherFound⟩ := exists_place rightDefined
  rcases LinearOrder.le_total place other with le | le
  · exact .inl (le_iff.mpr ⟨place, found, other, otherFound, le⟩)
  · exact .inr (le_iff.mpr ⟨other, otherFound, place, found, le⟩)

instance : OrderedNumber Double where
  lt_of_lt_of_le := by
    intro low middle high first second
    obtain ⟨lowest, lowPlace, between, middlePlace, below⟩ := lt_iff.mp first
    obtain ⟨other, otherPlace, highest, highPlace, atMost⟩ := le_iff.mp second
    obtain rfl : between = other := Option.mem_unique middlePlace otherPlace
    exact lt_iff.mpr ⟨lowest, lowPlace, highest, highPlace, below.trans_le atMost⟩
  lt_of_le_of_lt := by
    intro low middle high first second
    obtain ⟨lowest, lowPlace, between, middlePlace, atMost⟩ := le_iff.mp first
    obtain ⟨other, otherPlace, highest, highPlace, below⟩ := lt_iff.mp second
    obtain rfl : between = other := Option.mem_unique middlePlace otherPlace
    exact lt_iff.mpr ⟨lowest, lowPlace, highest, highPlace, atMost.trans_lt below⟩
  not_lt_of_le := by
    intro low high first second
    obtain ⟨lowest, lowPlace, highest, highPlace, atMost⟩ := le_iff.mp first
    obtain ⟨above, abovePlace, below, belowPlace, less⟩ := lt_iff.mp second
    obtain rfl : lowest = below := Option.mem_unique lowPlace belowPlace
    obtain rfl : highest = above := Option.mem_unique highPlace abovePlace
    exact absurd less atMost.not_gt

end Double

end MetricAggregation
