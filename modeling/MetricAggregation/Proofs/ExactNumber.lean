import Mathlib.Analysis.SpecialFunctions.Exp
import Mathlib.Analysis.SpecialFunctions.Pow.Real
import MetricAggregation.Number

/-!
Exact arithmetic: ordered fields in which every number has a place and nothing is lost but by an explicit
rounding. The definitions of the metrics are read over it as they stand.
-/

namespace MetricAggregation

/-- Numbers that are exact. Each law says what one of the operations of `Number` is without rounding,
overflow or undefined values. -/
class ExactNumber (α : Type) extends Number α, Field α, LinearOrder α, IsStrictOrderedRing α where
  isFinite_eq (value : α) : isFinite value = true
  totalLE_eq (left right : α) : totalLE left right = decide (left ≤ right)
  ofDecimal_eq (digits : Nat) (exponent : Int) : ofDecimal digits exponent = (digits : α) * 10 ^ exponent
  floorNat_le (value : α) : 0 ≤ value → (floorNat value : α) ≤ value
  lt_floorNat_add_one (value : α) : value < (floorNat value : α) + 1
  floorNat_of_neg (value : α) : value < 0 → floorNat value = 0
  round_whole (value : α) : ∃ whole : Int, round value = (whole : α)
  abs_round_sub_le (value : α) : |round value - value| ≤ 1 / 2
  exp_pos (value : α) : 0 < exp value
  exp_add (left right : α) : exp (left + right) = exp left * exp right

namespace ExactNumber

variable {α : Type} [ExactNumber α]

theorem floorNat_eq {value : α} {number : Nat} (lower : (number : α) ≤ value) (upper : value < number + 1) :
    Number.floorNat value = number := by
  have least := floorNat_le value ((Nat.cast_nonneg number).trans lower)
  have most := lt_floorNat_add_one value
  have below : Number.floorNat value < number + 1 := by exact_mod_cast least.trans_lt upper
  have above : number < Number.floorNat value + 1 := by exact_mod_cast lower.trans_lt most
  omega

@[simp] theorem floorNat_natCast (number : Nat) : Number.floorNat (number : α) = number :=
  floorNat_eq le_rfl (lt_add_one _)

theorem round_intCast (whole : Int) : Number.round (whole : α) = whole := by
  obtain ⟨other, rounded⟩ := round_whole (whole : α)
  have near := abs_round_sub_le (whole : α)
  rw [rounded, ← Int.cast_sub, ← Int.cast_abs] at near
  have close : |other - whole| < 1 := by
    have below : ((|other - whole| : Int) : α) < 1 := lt_of_le_of_lt near one_half_lt_one
    exact_mod_cast below
  rw [rounded, Int.abs_lt_one_iff.mp close |> sub_eq_zero.mp]

theorem floorNat_mono : Monotone (Number.floorNat : α → Nat) := by
  intro left right le
  rcases lt_or_ge left 0 with negative | nonneg
  · rw [floorNat_of_neg left negative]
    exact Nat.zero_le _
  · have between : (Number.floorNat left : α) < (Number.floorNat right : α) + 1 :=
      ((floorNat_le left nonneg).trans le).trans_lt (lt_floorNat_add_one right)
    have below : Number.floorNat left < Number.floorNat right + 1 := by exact_mod_cast between
    omega

theorem round_mono : Monotone (Number.round : α → α) := by
  intro left right le
  by_contra above
  obtain ⟨leftWhole, leftRounded⟩ := round_whole left
  obtain ⟨rightWhole, rightRounded⟩ := round_whole right
  have leftNear := (abs_le.mp (abs_round_sub_le left)).2
  have rightNear := (abs_le.mp (abs_round_sub_le right)).1
  rw [not_le] at above
  rw [leftRounded] at leftNear above
  rw [rightRounded] at rightNear above
  -- Two whole numbers are one apart at least, so both lie half way from a number between them.
  have apart : (rightWhole : α) + 1 ≤ leftWhole := by exact_mod_cast above
  obtain rfl : left = right := le_antisymm le (by linarith)
  rw [leftRounded] at rightRounded
  exact absurd (rightRounded ▸ above) (lt_irrefl _)

theorem floorNat_round_eq_of_near {value : α} {number : Nat} (near : |value - number| < 1 / 2) :
    Number.floorNat (Number.round value) = number := by
  obtain ⟨whole, rounded⟩ := round_whole value
  have apart := abs_round_sub_le value
  rw [rounded] at apart
  have close : |((whole - number : Int) : α)| < 1 := by
    calc |((whole - number : Int) : α)| = |((whole : α) - value) + (value - number)| := by push_cast; ring_nf
      _ ≤ |(whole : α) - value| + |value - number| := abs_add_le _ _
      _ < 1 / 2 + 1 / 2 := add_lt_add_of_le_of_lt apart near
      _ = 1 := add_halves 1
  have same : whole = number := by
    rw [← Int.cast_abs] at close
    exact sub_eq_zero.mp (Int.abs_lt_one_iff.mp (by exact_mod_cast close))
  rw [rounded, same, Int.cast_natCast, floorNat_natCast]

theorem exp_zero : Number.exp (0 : α) = 1 := by
  have doubled := exp_add (0 : α) 0
  rw [add_zero] at doubled
  exact (mul_eq_left₀ (exp_pos (0 : α)).ne').mp doubled.symm

theorem roundToMicro_eq (value : α) :
    Number.roundToMicro value = Number.round (value * 10 ^ 6) / 10 ^ 6 := by
  have scale : (Number.ofDecimal 1 6 : α) = 10 ^ 6 := by
    rw [ofDecimal_eq]
    norm_num
  simp only [Number.roundToMicro, isFinite_eq, if_true, scale]

theorem roundToMicro_mono : Monotone (Number.roundToMicro : α → α) := by
  intro left right le
  rw [roundToMicro_eq, roundToMicro_eq]
  have scaled : left * 10 ^ 6 ≤ right * 10 ^ 6 := mul_le_mul_of_nonneg_right le (by positivity)
  exact div_le_div_of_nonneg_right (round_mono scaled) (by positivity)

theorem roundToMicro_millionths (whole : Int) :
    Number.roundToMicro ((whole : α) / 10 ^ 6) = (whole : α) / 10 ^ 6 := by
  have scaled : (whole : α) / 10 ^ 6 * 10 ^ 6 = whole := div_mul_cancel₀ _ (by positivity)
  rw [roundToMicro_eq, scaled, round_intCast]

@[simp] theorem roundToMicro_natCast (number : Nat) : Number.roundToMicro (number : α) = number := by
  have scaled : ((number * 10 ^ 6 : Int) : α) / 10 ^ 6 = number := by norm_num
  have kept := roundToMicro_millionths (α := α) (number * 10 ^ 6)
  rwa [scaled] at kept

end ExactNumber

namespace RealNumber

noncomputable def round (value : ℝ) : ℝ :=
  if 0 ≤ value then (⌊value + 1 / 2⌋ : ℝ) else -(⌊-value + 1 / 2⌋ : ℝ)

theorem round_whole (value : ℝ) : ∃ whole : Int, round value = whole := by
  unfold round
  split
  · exact ⟨_, rfl⟩
  · exact ⟨-⌊-value + 1 / 2⌋, by push_cast; rfl⟩

theorem abs_round_sub_le (value : ℝ) : |round value - value| ≤ 1 / 2 := by
  rw [abs_le]
  unfold round
  split
  · have lower := Int.floor_le (value + 1 / 2)
    have upper := Int.lt_floor_add_one (value + 1 / 2)
    constructor <;> linarith
  · have lower := Int.floor_le (-value + 1 / 2)
    have upper := Int.lt_floor_add_one (-value + 1 / 2)
    constructor <;> linarith

/-- Real numbers. They have no written form. -/
noncomputable instance : Number ℝ where
  toDecidableLT := Classical.decRel _
  toDecidableLE := Classical.decRel _
  isFinite _ := true
  totalLE left right := left ≤ right
  ofDecimal digits exponent := digits * 10 ^ exponent
  floorNat value := ⌊value⌋₊
  round := round
  exp := Real.exp
  exp2 value := 2 ^ value
  sqrt := Real.sqrt
  text _ := ""

noncomputable instance : ExactNumber ℝ where
  __ := (inferInstance : Number ℝ)
  __ := (inferInstance : Field ℝ)
  __ := (inferInstance : LinearOrder ℝ)
  __ := (inferInstance : IsStrictOrderedRing ℝ)
  isFinite_eq _ := rfl
  totalLE_eq _ _ := decide_eq_decide.mpr Iff.rfl
  ofDecimal_eq _ _ := rfl
  floorNat_le _ := Nat.floor_le
  lt_floorNat_add_one := Nat.lt_floor_add_one
  floorNat_of_neg _ negative := Nat.floor_of_nonpos negative.le
  round_whole := round_whole
  abs_round_sub_le := abs_round_sub_le
  exp_pos := Real.exp_pos
  exp_add := Real.exp_add

end RealNumber

end MetricAggregation
