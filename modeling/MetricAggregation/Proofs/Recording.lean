import MetricAggregation.Proofs.Percentile
import MetricAggregation.Proofs.Sample

/-!
What a histogram tells of the values recorded in it, over exact numbers: its statistics lie between the least value
and the greatest, those of the values that its sample kept included.
-/

namespace MetricAggregation.Histogram

variable {α : Type} [ExactNumber α]

/-- A histogram in which some values were recorded since it was cleared. -/
structure Records (recorded : List α) (histogram : Histogram α) : Prop where
  count : histogram.count = recorded.length
  sum : histogram.sum = recorded.sum
  least : histogram.least? = recorded.min?
  greatest : histogram.greatest? = recorded.max?
  kept : histogram.reservoir.sample.Keeps Reservoir.defaultSize recorded

theorem min?_concat (recorded : List α) (value : α) :
    (recorded ++ [value]).min? = some (lesser recorded.min? value) := by
  cases recorded with
  | nil => rfl
  | cons first rest =>
      rw [List.cons_append, List.min?_cons', List.min?_cons', List.foldl_concat, lesser, min_def]

theorem max?_concat (recorded : List α) (value : α) :
    (recorded ++ [value]).max? = some (greater recorded.max? value) := by
  cases recorded with
  | nil => rfl
  | cons first rest =>
      rw [List.cons_append, List.max?_cons', List.max?_cons', List.foldl_concat, greater, max_comm, max_def]

theorem records_ofReservoir {reservoir : Reservoir α}
    (empty : reservoir.sample.Keeps Reservoir.defaultSize []) : (ofReservoir reservoir).Records [] :=
  ⟨rfl, rfl, rfl, rfl, empty⟩

variable {recorded : List α} {histogram : Histogram α}

theorem Records.update (records : histogram.Records recorded) (value now : α) :
    (histogram.update value now).Records (recorded ++ [value]) where
  count := by
    rw [List.length_append, ← records.count]
    rfl
  sum := by
    rw [List.sum_append, List.sum_singleton, ← records.sum]
    rfl
  least := by
    rw [min?_concat, ← records.least]
    rfl
  greatest := by
    rw [max?_concat, ← records.greatest]
    rfl
  kept := records.kept.push value now _

theorem Records.clear (records : histogram.Records recorded) (now : α) : (histogram.clear now).Records [] :=
  records_ofReservoir (records.kept.clear now)

theorem Records.mem (records : histogram.Records recorded) {value : α} (inside : value ∈ recorded) :
    histogram.least ≤ value ∧ value ≤ histogram.greatest := by
  have filled := List.ne_nil_of_mem inside
  have someLeast := mt List.min?_eq_none_iff.mp filled
  have someGreatest := mt List.max?_eq_none_iff.mp filled
  obtain ⟨least, leastEq⟩ := Option.ne_none_iff_exists'.mp someLeast
  obtain ⟨greatest, greatestEq⟩ := Option.ne_none_iff_exists'.mp someGreatest
  rw [Histogram.least, Histogram.greatest, records.least, records.greatest, leastEq, greatestEq]
  exact ⟨(List.min?_eq_some_iff.mp leastEq).2 value inside, (List.max?_eq_some_iff.mp greatestEq).2 value inside⟩

theorem Records.mean_mem (records : histogram.Records recorded) :
    histogram.least ≤ histogram.mean ∧ histogram.mean ≤ histogram.greatest := by
  cases recorded with
  | nil =>
      have none : histogram.count = 0 := records.count
      rw [Histogram.least, Histogram.greatest, mean, if_pos none, records.least, records.greatest]
      exact ⟨le_rfl, le_rfl⟩
  | cons first rest =>
      have counted : histogram.count = rest.length + 1 := records.count
      have positive : (0 : α) < ((rest.length + 1 : Nat) : α) := Nat.cast_pos.mpr (Nat.succ_pos _)
      have lower := List.card_nsmul_le_sum (first :: rest) histogram.least fun value inside => (records.mem inside).1
      have upper := List.sum_le_card_nsmul (first :: rest) histogram.greatest fun value inside => (records.mem inside).2
      rw [List.length_cons, nsmul_eq_mul, ← records.sum] at lower upper
      rw [mean, if_neg (by omega), counted, le_div_iff₀ positive, div_le_iff₀ positive, mul_comm,
        mul_comm histogram.greatest]
      exact ⟨lower, upper⟩

/-- The score of a percentile among the values that were kept; zero if there are none. -/
def scoreOf (histogram : Histogram α) (percentile : α) : α :=
  if histogram.reservoir.values = [] then 0 else score histogram.sortedValues percentile

theorem size_sortedValues (histogram : Histogram α) :
    histogram.sortedValues.size = histogram.reservoir.values.length := by
  rw [sortedValues, List.size_toArray, List.length_mergeSort]

theorem size_sortedValues_pos {histogram : Histogram α} (filled : histogram.reservoir.values ≠ []) :
    0 < histogram.sortedValues.size := by
  rw [size_sortedValues]
  exact List.length_pos_iff.mpr filled

theorem mem_sortedValues {position : Nat} (inside : position < histogram.sortedValues.size) :
    histogram.sortedValues.getD position 0 ∈ histogram.reservoir.values := by
  have sorted := List.mergeSort_perm histogram.reservoir.values Number.totalLE
  rw [← sorted.mem_iff, ← List.mem_toArray, Array.getD, dif_pos inside]
  exact Array.getElem_mem inside

theorem Records.values_eq_nil_iff (records : histogram.Records recorded) :
    histogram.reservoir.values = [] ↔ recorded = [] := by
  have size : histogram.reservoir.values.length = min Reservoir.defaultSize recorded.length := by
    rw [← records.kept.size]
    exact histogram.reservoir.sample.length_values
  have room : 0 < Reservoir.defaultSize := by decide
  rw [← List.length_eq_zero_iff, ← List.length_eq_zero_iff, size]
  omega

theorem Records.percentiles_eq (records : histogram.Records recorded) (percentiles : List α) :
    histogram.percentiles percentiles = percentiles.map histogram.scoreOf := by
  have counted : histogram.count = 0 ↔ recorded = [] := by
    rw [records.count, List.length_eq_zero_iff]
  have scored : histogram.sortedValues.isEmpty ↔ recorded = [] := by
    rw [Array.isEmpty_iff_size_eq_zero, size_sortedValues, List.length_eq_zero_iff, records.values_eq_nil_iff]
  unfold Histogram.percentiles scoreOf
  by_cases nothing : recorded = []
  · simp [counted.mpr nothing, records.values_eq_nil_iff.mpr nothing]
  · have someValues := mt records.values_eq_nil_iff.mp nothing
    simp [mt counted.mp nothing, mt scored.mp nothing, someValues]

theorem Records.scoreOf_mem (records : histogram.Records recorded) (percentile : α) :
    histogram.least ≤ histogram.scoreOf percentile ∧ histogram.scoreOf percentile ≤ histogram.greatest := by
  unfold scoreOf
  split
  · rename_i nothing
    rw [records.values_eq_nil_iff] at nothing
    subst nothing
    rw [Histogram.least, Histogram.greatest, records.least, records.greatest]
    exact ⟨le_rfl, le_rfl⟩
  · rename_i filled
    have positive := size_sortedValues_pos filled
    have member : ∀ position < histogram.sortedValues.size,
        histogram.least ≤ histogram.sortedValues.getD position 0 ∧
          histogram.sortedValues.getD position 0 ≤ histogram.greatest := fun position inside =>
      records.mem (records.kept.retained.subset (mem_sortedValues inside))
    have bounds := (ascending_sortedValues histogram).score_mem positive percentile
    exact ⟨(member 0 positive).1.trans bounds.1, bounds.2.trans (member _ (by omega)).2⟩

theorem scoreOf_mono (histogram : Histogram α) : Monotone histogram.scoreOf := by
  intro left right le
  unfold scoreOf
  split
  · exact le_rfl
  · rename_i filled
    exact (ascending_sortedValues histogram).score_mono (size_sortedValues_pos filled) le

theorem Records.pairwise_scores (records : histogram.Records recorded) {percentiles : List α}
    (ascending : percentiles.Pairwise (· ≤ ·)) :
    (histogram.least :: (percentiles.map histogram.scoreOf ++ [histogram.greatest])).Pairwise (· ≤ ·) := by
  have between := records.scoreOf_mem
  have scores : ∀ score ∈ percentiles.map histogram.scoreOf,
      histogram.least ≤ score ∧ score ≤ histogram.greatest := by
    intro score member
    obtain ⟨percentile, _, rfl⟩ := List.mem_map.mp member
    exact between percentile
  rw [List.pairwise_cons, List.pairwise_append]
  refine ⟨?_, ascending.map _ fun _ _ le => histogram.scoreOf_mono le, List.pairwise_singleton _ _, ?_⟩
  · intro value member
    rcases List.mem_append.mp member with score | last
    · exact (scores value score).1
    · obtain rfl := List.mem_singleton.mp last
      exact (between 0).1.trans (between 0).2
  · intro score member last greatest
    obtain rfl := List.mem_singleton.mp greatest
    exact (scores score member).2

end MetricAggregation.Histogram
