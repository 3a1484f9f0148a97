import MetricAggregation.Proofs.Recording
import MetricAggregation.Proofs.Aggregates

/-!
Percentiles as order statistics. The score of a percentile is read inside the sorted values of a sample, and at a
percentile that is a rank divided by one more than their number it is the value of that rank.
-/

namespace MetricAggregation

section Smallest

variable {α : Type} [LinearOrder α]

/-- A value has a rank, counted from one, among values in ascending order: fewer of them than the rank are below it, and
at least as many are not above it. -/
def IsSmallest (rank : Nat) (values : List α) (value : α) : Prop :=
  values.countP (fun other => decide (other < value)) < rank ∧
    rank ≤ values.countP (fun other => decide (other ≤ value))

variable {rank : Nat} {values : List α}

theorem IsSmallest.le {left right : α} (leftRanked : IsSmallest rank values left)
    (rightRanked : IsSmallest rank values right) : right ≤ left := by
  by_contra above
  rw [not_le] at above
  have fewer : values.countP (fun other => decide (other ≤ left)) ≤
      values.countP (fun other => decide (other < right)) :=
    List.countP_mono_left fun other _ below => decide_eq_true ((of_decide_eq_true below).trans_lt above)
  exact absurd (leftRanked.2.trans fewer) (Nat.not_le_of_lt rightRanked.1)

theorem isSmallest_iff_eq {value : α} (ranked : IsSmallest rank values value) (other : α) :
    IsSmallest rank values other ↔ other = value := by
  constructor
  · exact fun otherRanked => le_antisymm (ranked.le otherRanked) (otherRanked.le ranked)
  · rintro rfl
    exact ranked

theorem isSmallest_perm {others : List α} (same : values.Perm others) (value : α) :
    IsSmallest rank values value ↔ IsSmallest rank others value := by
  unfold IsSmallest
  rw [same.countP_eq, same.countP_eq]

section Sorted

variable {position : Nat} (ordered : values.SortedLE) (inside : position < values.length)
include ordered

theorem countP_lt_getElem_le : values.countP (fun other => decide (other < values[position])) ≤ position := by
  have behind : (values.drop position).countP (fun other => decide (other < values[position])) = 0 := by
    rw [List.countP_eq_zero]
    intro other member
    obtain ⟨offset, bound, rfl⟩ := List.getElem_of_mem member
    rw [List.getElem_drop, decide_eq_true_iff, not_lt]
    exact ordered.getElem_le_getElem_of_le (Nat.le_add_right position offset)
  calc values.countP (fun other => decide (other < values[position]))
      = (values.take position).countP (fun other => decide (other < values[position])) +
          (values.drop position).countP (fun other => decide (other < values[position])) := by
        rw [← List.countP_append, List.take_append_drop]
    _ ≤ (values.take position).length + 0 := Nat.add_le_add List.countP_le_length behind.le
    _ ≤ position := List.length_take_le position values

theorem lt_countP_le_getElem : position < values.countP (fun other => decide (other ≤ values[position])) := by
  have upTo : ∀ other ∈ values.take (position + 1), decide (other ≤ values[position]) = true := by
    intro other member
    obtain ⟨index, bound, rfl⟩ := List.getElem_of_mem member
    have before : index ≤ position := Nat.le_of_lt_succ (bound.trans_le (List.length_take_le _ values))
    rw [List.getElem_take, decide_eq_true_iff]
    exact ordered.getElem_le_getElem_of_le before
  calc position < (values.take (position + 1)).length := by
        rw [List.length_take_of_le inside]
        exact Nat.lt_succ_self position
    _ = (values.take (position + 1)).countP (fun other => decide (other ≤ values[position])) :=
        (List.countP_eq_length.mpr upTo).symm
    _ ≤ values.countP (fun other => decide (other ≤ values[position])) :=
        (List.take_sublist _ values).countP_le

theorem isSmallest_getElem : IsSmallest (position + 1) values values[position] :=
  ⟨Nat.lt_succ_of_le (countP_lt_getElem_le ordered inside), lt_countP_le_getElem ordered inside⟩

end Sorted

end Smallest

variable {α : Type} [ExactNumber α]

namespace Rank

/-- The score at a rank where a read outside the sorted values has no outcome. -/
def read? (sorted : Array α) : Rank α → Option α
  | first => sorted[0]?
  | last => sorted[sorted.size - 1]?
  | between position fraction => do
    let lower ← sorted[position]?
    let upper ← sorted[position + 1]?
    return lower + fraction * (upper - lower)

theorem read?_of {sorted : Array α} (filled : 0 < sorted.size) (percentile : α) :
    (Rank.of percentile sorted.size).read? sorted = some (Histogram.score sorted percentile) := by
  have reads : ∀ position < sorted.size, sorted[position]? = some (sorted.getD position 0) := by
    intro position inside
    rw [Array.getElem?_eq_getElem inside, Array.getD, dif_pos inside]
    rfl
  rw [Ascending.score_eq]
  obtain ⟨_, first⟩ | ⟨_, _, last⟩ | ⟨position, inside, _, between⟩ := Rank.of_cases percentile sorted.size
  · rw [first]
    exact reads 0 filled
  · rw [last]
    exact reads (sorted.size - 1) (by omega)
  · rw [between, read?, reads position (by omega), reads (position + 1) inside]
    rfl

/-- The lower of two positions that are read is the whole part of the rank less one, which is not cut off at zero. -/
theorem floorNat_of_between {percentile : α} {count position : Nat} {fraction : α}
    (ranked : Rank.of percentile count = .between position fraction) :
    Number.floorNat (percentile * ((count + 1 : Nat) : α)) = position + 1 := by
  obtain ⟨_, first⟩ | ⟨_, _, last⟩ | ⟨other, _, ⟨least, most⟩, between⟩ := Rank.of_cases percentile count
  · rw [first] at ranked
    cases ranked
  · rw [last] at ranked
    cases ranked
  · rw [between] at ranked
    cases ranked
    rw [← Nat.cast_succ] at least most
    exact ExactNumber.floorNat_eq least most

end Rank

namespace Ascending

/-- The score at a percentile that gives a whole rank is the value at that rank. -/
theorem score_whole {sorted : Array α} {position : Nat} (inside : position < sorted.size) :
    Histogram.score sorted (((position + 1 : Nat) : α) / ((sorted.size + 1 : Nat) : α)) = sorted.getD position 0 := by
  have positive : ((sorted.size + 1 : Nat) : α) ≠ 0 := Nat.cast_ne_zero.mpr (Nat.succ_ne_zero _)
  have whole : ((position + 1 : Nat) : α) / ((sorted.size + 1 : Nat) : α) * ((sorted.size + 1 : Nat) : α) =
      (position : α) + 1 := by
    rw [div_mul_cancel₀ _ positive, Nat.cast_succ]
  rw [score_eq]
  obtain ⟨before, _⟩ | ⟨_, behind, last⟩ | ⟨other, otherInside, ⟨least, most⟩, between⟩ :=
    Rank.of_cases (((position + 1 : Nat) : α) / ((sorted.size + 1 : Nat) : α)) sorted.size
  · rw [whole] at before
    have positive : (0 : α) ≤ position := Nat.cast_nonneg position
    linarith
  · rw [whole] at behind
    have reached : sorted.size ≤ position + 1 := by exact_mod_cast behind
    obtain rfl : position = sorted.size - 1 := by omega
    rw [last]
    rfl
  · rw [whole] at least most between
    have notAbove : other + 1 ≤ position + 1 := by exact_mod_cast least
    have notBelow : position + 1 < other + 1 + 1 := by exact_mod_cast most
    obtain rfl : position = other := by omega
    rw [between, sub_self, Rank.score]
    simp

end Ascending

namespace Histogram

theorem getD_sortedValues {histogram : Histogram α} {position : Nat}
    (inside : position < (histogram.reservoir.values.mergeSort Number.totalLE).length) :
    histogram.sortedValues.getD position 0 = (histogram.reservoir.values.mergeSort Number.totalLE)[position] :=
  dif_pos inside

theorem isSmallest_score {histogram : Histogram α} {rank : Nat} (least : 1 ≤ rank)
    (most : rank ≤ histogram.reservoir.values.length) :
    IsSmallest rank histogram.reservoir.values
      (score histogram.sortedValues ((rank : α) / ((histogram.reservoir.values.length + 1 : Nat) : α))) := by
  obtain ⟨position, rfl⟩ : ∃ position, rank = position + 1 := ⟨rank - 1, by omega⟩
  have inside : position < histogram.sortedValues.size := by
    rw [size_sortedValues]
    omega
  have ranked := isSmallest_getElem (sortedLE_mergeSort histogram.reservoir.values) inside
  rw [isSmallest_perm (List.mergeSort_perm _ _)] at ranked
  rw [← size_sortedValues, Ascending.score_whole inside, getD_sortedValues inside]
  exact ranked

/-- The scores lie between two of the values, the least and the greatest. -/
theorem score_between {histogram : Histogram α} (filled : histogram.reservoir.values ≠ []) :
    ∃ least ∈ histogram.reservoir.values, ∃ greatest ∈ histogram.reservoir.values,
      (∀ value ∈ histogram.reservoir.values, least ≤ value ∧ value ≤ greatest) ∧
        ∀ percentile, least ≤ score histogram.sortedValues percentile ∧
          score histogram.sortedValues percentile ≤ greatest := by
  have positive := size_sortedValues_pos filled
  have ascending := ascending_sortedValues histogram
  refine ⟨_, mem_sortedValues positive, _, mem_sortedValues (Nat.sub_one_lt positive.ne'), ?_,
    ascending.score_mem positive⟩
  intro value member
  rw [← (List.mergeSort_perm histogram.reservoir.values Number.totalLE).mem_iff] at member
  obtain ⟨position, inside, rfl⟩ := List.mem_iff_getElem.mp member
  rw [← getD_sortedValues inside]
  change position < histogram.sortedValues.size at inside
  exact ⟨ascending 0 position (Nat.zero_le _) inside, ascending position _ (by omega) (by omega)⟩

/-- Percentiles of a sample that is not empty, after any values and clears, of either kind and any capacity, with any
draws. They are read inside the sorted sample, lie between its least value and its greatest and grow with what is asked,
and a percentile that is a rank divided by one more than the size of the sample gives the value of that rank. -/
theorem percentiles_orderStatistics (policy : ReservoirPolicy) (capacity : Nat) (alpha start : α)
    (draws : Nat → Draw α) (steps : List (SampleStep α Unit)) :
    let histogram := steps.foldl step (ofReservoir (.ofSample (.chosen policy capacity alpha start) draws))
    let retained := histogram.reservoir.values
    let sorted := histogram.sortedValues
    retained ≠ [] →
      (∀ asked, histogram.percentiles asked = asked.map (score sorted)) ∧
      (∀ percentile, (Rank.of percentile sorted.size).read? sorted = some (score sorted percentile) ∧
        ∀ position fraction, Rank.of percentile sorted.size = .between position fraction →
          Number.floorNat (percentile * ((sorted.size + 1 : Nat) : α)) = position + 1) ∧
      (∃ least ∈ retained, ∃ greatest ∈ retained, (∀ value ∈ retained, least ≤ value ∧ value ≤ greatest) ∧
        ∀ percentile, least ≤ score sorted percentile ∧ score sorted percentile ≤ greatest) ∧
      Monotone (score sorted) ∧
      ∀ rank, 1 ≤ rank → rank ≤ retained.length → ∀ value, IsSmallest rank retained value ↔
        value = score sorted ((rank : α) / ((retained.length + 1 : Nat) : α)) := by
  intro histogram retained sorted filled
  have positive : 0 < sorted.size := size_sortedValues_pos filled
  refine ⟨?_, fun percentile => ⟨Rank.read?_of positive percentile, fun _ _ => Rank.floorNat_of_between⟩,
    score_between filled, (ascending_sortedValues histogram).score_mono positive,
    fun rank least most => isSmallest_iff_eq (isSmallest_score least most)⟩
  have keeps : histogram.reservoir.sample.Keeps capacity (pushedIn steps) :=
    keeps_run policy capacity alpha start draws steps
  have counted : histogram.count = (pushedIn steps).length := count_run _ steps
  have someCount : histogram.count ≠ 0 := by
    rw [counted]
    have fewer := keeps.retained.length_le
    have someValues := List.length_pos_iff.mpr filled
    exact (someValues.trans_le fewer).ne'
  exact percentiles_eq_map_score someCount filled

theorem percentiles_of_three :
    let steps : List (SampleStep ℝ Unit) := [.push 5 0 (), .push 2 0 (), .push 9 0 ()]
    let histogram := steps.foldl step (ofReservoir (.ofSample (.chosen .resetOnFlush 3 0 0) fun _ => ⟨fun _ => 0, 1⟩))
    histogram.reservoir.values = [5, 2, 9] ∧ histogram.reservoir.values ≠ [] ∧
      ∀ value, IsSmallest 2 histogram.reservoir.values value ↔
        value = score histogram.sortedValues (((2 : Nat) : ℝ) / ((3 + 1 : Nat) : ℝ)) := by
  intro steps histogram
  have filled : histogram.reservoir.values ≠ [] := nofun
  have described := percentiles_orderStatistics .resetOnFlush 3 0 0 (fun _ => ⟨fun _ => 0, 1⟩) steps filled
  exact ⟨rfl, filled, described.2.2.2.2 2 (by decide) (by decide)⟩

end Histogram

end MetricAggregation
