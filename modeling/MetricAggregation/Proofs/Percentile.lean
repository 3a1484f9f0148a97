import Mathlib.Tactic.Linarith
import MetricAggregation.Histogram
import MetricAggregation.Proofs.ExactNumber

/-!
Scores of percentiles. They lie between the values at which they are read, and so they grow with the percentile from
the least value of the sample to the greatest.
-/

namespace MetricAggregation

variable {α : Type} [ExactNumber α]

/-- Values of a sample in the order in which their scores are read. -/
def Ascending (sorted : Array α) : Prop :=
  ∀ lower upper, lower ≤ upper → upper < sorted.size → sorted.getD lower 0 ≤ sorted.getD upper 0

theorem ascending_of_sortedLE {values : List α} (ordered : values.SortedLE) : Ascending values.toArray := by
  intro lower upper le bound
  rw [List.size_toArray] at bound
  have inside : lower < values.length := by omega
  simp only [Array.getD_eq_getD_getElem?, List.getElem?_toArray, List.getElem?_eq_getElem inside,
    List.getElem?_eq_getElem bound, Option.getD_some]
  exact ordered.getElem_le_getElem_of_le le

theorem sortedLE_mergeSort (values : List α) : (values.mergeSort Number.totalLE).SortedLE := by
  have compares : (Number.totalLE : α → α → Bool) = fun left right => decide (left ≤ right) := by
    funext left right
    exact ExactNumber.totalLE_eq left right
  rw [compares]
  exact (List.pairwise_mergeSort' (· ≤ ·) values).sortedLE

theorem ascending_sortedValues (histogram : Histogram α) : Ascending histogram.sortedValues :=
  ascending_of_sortedLE (sortedLE_mergeSort histogram.reservoir.values)

namespace Rank

/-- The rank of a percentile is before the first value, on the last or behind it, or from one value up to the next. -/
theorem of_cases (percentile : α) (count : Nat) :
    let rank := percentile * ((count + 1 : Nat) : α)
    rank < 1 ∧ Rank.of percentile count = .first ∨
      1 ≤ rank ∧ (count : α) ≤ rank ∧ Rank.of percentile count = .last ∨
      ∃ position, position + 1 < count ∧ ((position : α) + 1 ≤ rank ∧ rank < (position : α) + 1 + 1) ∧
        Rank.of percentile count = .between position (rank - ((position : α) + 1)) := by
  intro rank
  unfold Rank.of
  dsimp only
  by_cases before : rank < 1
  · exact .inl ⟨before, if_pos before⟩
  · rw [if_neg before]
    rw [not_lt] at before
    by_cases behind : (count : α) ≤ rank
    · exact .inr (.inl ⟨before, behind, if_pos behind⟩)
    · rw [if_neg behind]
      rw [not_le] at behind
      have least := ExactNumber.floorNat_le rank (zero_le_one.trans before)
      have most := ExactNumber.lt_floorNat_add_one rank
      have first : 1 ≤ Number.floorNat rank := by
        have mono := ExactNumber.floorNat_mono before
        rwa [← Nat.cast_one, ExactNumber.floorNat_natCast] at mono
      have inside : Number.floorNat rank < count := by exact_mod_cast least.trans_lt behind
      obtain ⟨position, whole⟩ : ∃ position, Number.floorNat rank = position + 1 :=
        ⟨Number.floorNat rank - 1, by omega⟩
      rw [whole] at least most inside
      push_cast at least most
      refine .inr (.inr ⟨position, inside, ⟨least, most⟩, ?_⟩)
      have shifted : ((position + 1 : Nat) : α) = (position : α) + 1 := Nat.cast_succ position
      simp only [rank] at whole
      rw [whole, Nat.add_sub_cancel, shifted]

theorem between_score {sorted : Array α} (ascending : Ascending sorted) {position : Nat}
    (inside : position + 1 < sorted.size) {fraction : α} (nonneg : 0 ≤ fraction) (atMost : fraction ≤ 1) :
    sorted.getD position 0 ≤ (between position fraction).score sorted ∧
      (between position fraction).score sorted ≤ sorted.getD (position + 1) 0 := by
  have le := ascending position (position + 1) (by omega) inside
  have step : 0 ≤ sorted.getD (position + 1) 0 - sorted.getD position 0 := sub_nonneg.mpr le
  have part := mul_nonneg nonneg step
  have rest := mul_le_of_le_one_left step atMost
  unfold Rank.score
  dsimp only
  constructor
  · linarith
  · linarith

end Rank

namespace Ascending

variable {sorted : Array α}

theorem score_eq (percentile : α) :
    Histogram.score sorted percentile = (Rank.of percentile sorted.size).score sorted :=
  if_pos le_rfl

theorem score_mem (ascending : Ascending sorted) (filled : 0 < sorted.size) (percentile : α) :
    sorted.getD 0 0 ≤ Histogram.score sorted percentile ∧
      Histogram.score sorted percentile ≤ sorted.getD (sorted.size - 1) 0 := by
  have whole := ascending 0 (sorted.size - 1) (by omega) (by omega)
  rw [score_eq]
  obtain ⟨_, first⟩ | ⟨_, _, last⟩ | ⟨position, inside, ⟨least, most⟩, between⟩ :=
    Rank.of_cases percentile sorted.size
  · rw [first]
    exact ⟨le_rfl, whole⟩
  · rw [last]
    exact ⟨whole, le_rfl⟩
  · rw [between]
    have bounds := Rank.between_score ascending inside (sub_nonneg.mpr least) (by linarith)
    exact ⟨(ascending 0 position (by omega) (by omega)).trans bounds.1,
      bounds.2.trans (ascending (position + 1) (sorted.size - 1) (by omega) (by omega))⟩

theorem score_mono (ascending : Ascending sorted) (filled : 0 < sorted.size) :
    Monotone (Histogram.score sorted) := by
  intro left right le
  have ranks : left * ((sorted.size + 1 : Nat) : α) ≤ right * ((sorted.size + 1 : Nat) : α) :=
    mul_le_mul_of_nonneg_right le (Nat.cast_nonneg _)
  have leftMem := ascending.score_mem filled left
  have rightMem := ascending.score_mem filled right
  rw [score_eq, score_eq] at *
  rcases Rank.of_cases left sorted.size with ⟨_, leftRank⟩ | ⟨started, behind, leftRank⟩ |
    ⟨lower, lowerInside, ⟨lowerLeast, lowerMost⟩, leftRank⟩
  · rw [leftRank]
    exact rightMem.1
  · rcases Rank.of_cases right sorted.size with ⟨before, _⟩ | ⟨_, _, rightRank⟩ | ⟨upper, upperInside, ⟨_, most⟩, _⟩
    · linarith
    · rw [leftRank, rightRank]
    · have ended : (upper : α) + 1 + 1 ≤ sorted.size := by exact_mod_cast upperInside
      linarith
  · rcases Rank.of_cases right sorted.size with ⟨before, _⟩ | ⟨_, _, rightRank⟩ |
      ⟨upper, upperInside, ⟨upperLeast, upperMost⟩, rightRank⟩
    · have positive : (0 : α) ≤ lower := Nat.cast_nonneg lower
      linarith
    · rw [rightRank]
      exact leftMem.2
    · have reached : lower < upper + 1 := by
        have below : (lower : α) + 1 < (upper : α) + 1 + 1 := by linarith
        exact_mod_cast (add_lt_add_iff_right 1).mp below
      have leftBounds := Rank.between_score ascending lowerInside (sub_nonneg.mpr lowerLeast) (by linarith)
      have rightBounds := Rank.between_score ascending upperInside (sub_nonneg.mpr upperLeast) (by linarith)
      rw [leftRank, rightRank]
      rcases Nat.lt_or_eq_of_le (Nat.lt_succ_iff.mp reached) with less | rfl
      · exact leftBounds.2.trans ((ascending (lower + 1) upper less (by omega)).trans rightBounds.1)
      · -- Between the same two values, the score grows with the fraction.
        have step : 0 ≤ sorted.getD (lower + 1) 0 - sorted.getD lower 0 :=
          sub_nonneg.mpr (ascending lower (lower + 1) (by omega) lowerInside)
        exact add_le_add_right (mul_le_mul_of_nonneg_right (by linarith) step) _

end Ascending

end MetricAggregation
