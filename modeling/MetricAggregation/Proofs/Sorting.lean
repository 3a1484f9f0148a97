/-!
Sorts by a name. They keep the order of entries that share a name, and leave no choice where no two entries do.
-/

namespace MetricAggregation

section Sorting

variable {β ι : Type} [LE ι] [DecidableLE ι] [Std.IsLinearOrder ι] (name : β → ι)

theorem decide_le_trans (first second third : β) :
    decide (name first ≤ name second) = true → decide (name second ≤ name third) = true →
      decide (name first ≤ name third) = true := by
  simpa only [decide_eq_true_eq] using Std.le_trans

theorem decide_le_total (first second : β) :
    (decide (name first ≤ name second) || decide (name second ≤ name first)) = true := by
  simpa only [Bool.or_eq_true, decide_eq_true_eq] using Std.le_total

theorem pairwise_mergeSort_le (entries : List β) :
    (entries.mergeSort fun left right => decide (name left ≤ name right)).Pairwise
      fun left right => name left ≤ name right := by
  have sorted := List.pairwise_mergeSort (decide_le_trans name) (decide_le_total name) entries
  simpa only [decide_eq_true_eq] using sorted

theorem filter_mergeSort_of_shared (keep : β → Bool) (entries : List β)
    (shared : ∀ left ∈ entries, ∀ right ∈ entries, keep left → keep right → name left = name right) :
    (entries.mergeSort fun left right => decide (name left ≤ name right)).filter keep = entries.filter keep := by
  have ordered : (entries.filter keep).Pairwise fun left right => decide (name left ≤ name right) = true := by
    apply List.pairwise_of_forall_mem_list
    intro left leftMember right rightMember
    rw [List.mem_filter] at leftMember rightMember
    rw [shared left leftMember.1 right rightMember.1 leftMember.2 rightMember.2]
    exact decide_eq_true (Std.le_refl _)
  have kept := (List.sublist_mergeSort (decide_le_trans name) (decide_le_total name) ordered
    List.filter_sublist).filter keep
  simp only [List.filter_filter, Bool.and_self] at kept
  exact (kept.eq_of_length ((List.mergeSort_perm entries _).filter keep).length_eq.symm).symm

variable {left right : List β}

omit [Std.IsLinearOrder ι] in
theorem mergeSort_perm_of_perm (same : left.Perm right) :
    (left.mergeSort fun one other => decide (name one ≤ name other)).Perm
      (right.mergeSort fun one other => decide (name one ≤ name other)) :=
  (List.mergeSort_perm _ _).trans (same.trans (List.mergeSort_perm _ _).symm)

theorem map_mergeSort_eq_of_perm (same : left.Perm right) :
    (left.mergeSort fun one other => decide (name one ≤ name other)).map name =
      (right.mergeSort fun one other => decide (name one ≤ name other)).map name := by
  refine List.Perm.eq_of_pairwise (fun _ _ _ _ => Std.le_antisymm) ?_ ?_
    ((mergeSort_perm_of_perm name same).map _)
  · exact List.pairwise_map.mpr (pairwise_mergeSort_le name left)
  · exact List.pairwise_map.mpr (pairwise_mergeSort_le name right)

theorem mergeSort_eq_of_apart (same : left.Perm right)
    (apart : ∀ one ∈ left, ∀ other ∈ left, name one = name other → one = other) :
    (left.mergeSort fun one other => decide (name one ≤ name other)) =
      right.mergeSort fun one other => decide (name one ≤ name other) := by
  refine List.Perm.eq_of_pairwise ?_ (pairwise_mergeSort_le name left) (pairwise_mergeSort_le name right)
    (mergeSort_perm_of_perm name same)
  intro one other first second before after
  have inLeft := List.mem_mergeSort.mp first
  have alsoInLeft := same.mem_iff.mpr (List.mem_mergeSort.mp second)
  exact apart one inLeft other alsoInLeft (Std.le_antisymm before after)

end Sorting

end MetricAggregation
