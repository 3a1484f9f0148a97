import Mathlib.Data.List.Perm.Basic
import MetricAggregation.Sample.PriorityHeap

/-!
What is in a heap. Entries rise and sink by swaps, so a heap has the entries that were put into it, less
those that were taken out.
-/

namespace MetricAggregation.PriorityHeap

variable {α : Type}

theorem perm_swapIfInBounds (entries : Array (Weighted α)) (first second : Nat) :
    (entries.swapIfInBounds first second).Perm entries := by
  unfold Array.swapIfInBounds
  split
  · split
    · exact Array.swap_perm _ _
    · exact .rfl
  · exact .rfl

variable [Number α]

theorem siftUp_perm (entries : Array (Weighted α)) (position : Nat) :
    (siftUp entries position).Perm entries := by
  induction position using Nat.strongRecOn generalizing entries with
  | ind position ih =>
      rw [siftUp]
      split
      · exact .rfl
      · dsimp only
        split
        · split
          · exact .rfl
          · exact (ih _ (by omega) _).trans (perm_swapIfInBounds _ _ _)
        · exact .rfl

theorem sinkToLeaf_perm (entries : Array (Weighted α)) (position : Nat) :
    (sinkToLeaf entries position).1.Perm entries := by
  induction entries, position using sinkToLeaf.induct with
  | case1 entries position leaf =>
      rw [sinkToLeaf]
      split
      · exact .rfl
      · rename_i found
        simp [leaf] at found
  | case2 entries position child found ih =>
      rw [sinkToLeaf]
      split
      · exact .rfl
      · rename_i other same
        rw [found, Option.some.injEq] at same
        subst same
        exact ih.trans (perm_swapIfInBounds _ _ _)

theorem siftDown_perm (entries : Array (Weighted α)) (position : Nat) :
    (siftDown entries position).Perm entries := by
  induction size : entries.size - position using Nat.strongRecOn generalizing entries position with
  | ind left ih =>
      rw [siftDown]
      split
      · exact .rfl
      · rename_i child found
        have bounds := lesserChild?_bounds found
        split
        · split
          · exact .rfl
          · refine (ih _ ?_ _ child rfl).trans (perm_swapIfInBounds _ _ _)
            rw [Array.size_swapIfInBounds]
            omega
        · exact .rfl

theorem foldl_siftDown_perm (positions : List Nat) : ∀ entries : Array (Weighted α),
    (positions.foldl siftDown entries).Perm entries := by
  induction positions with
  | nil => exact fun _ => .rfl
  | cons position rest ih => exact fun entries => (ih _).trans (siftDown_perm entries position)

theorem entries_insert_perm (heap : PriorityHeap α) (entry : Weighted α) :
    (heap.insert entry).entries.toList.Perm (entry :: heap.entries.toList) := by
  refine (siftUp_perm _ _).toList.trans ?_
  rw [Array.toList_push]
  exact List.perm_append_singleton entry _

/-- The last entry takes the place of the root, so that only the root is lost. -/
theorem cons_removeLeast_perm {heap : PriorityHeap α} {least : Weighted α} (root : heap.least? = some least) :
    (least :: heap.removeLeast.entries.toList).Perm heap.entries.toList := by
  obtain ⟨⟨entries⟩⟩ := heap
  cases entries with
  | nil => cases root
  | cons first rest =>
      obtain rfl : first = least := by simpa [least?] using root
      rcases List.eq_nil_or_concat rest with rfl | ⟨middle, last, rfl⟩
      · have moved : removeLeast ⟨#[first]⟩ = ⟨siftUp (sinkToLeaf #[] 0).1 (sinkToLeaf #[] 0).2⟩ := rfl
        rw [moved]
        exact (((siftUp_perm _ _).trans (sinkToLeaf_perm _ _)).toList).cons first
      · have moved : removeLeast ⟨⟨first :: (middle ++ [last])⟩⟩ =
            ⟨siftUp (sinkToLeaf ⟨last :: middle⟩ 0).1 (sinkToLeaf ⟨last :: middle⟩ 0).2⟩ := by
          have ended : (first :: (middle ++ [last])).getLast? = some last := by
            rw [← List.cons_append, List.getLast?_concat]
          have front : (first :: (middle ++ [last])).dropLast = first :: middle := by
            rw [← List.cons_append, List.dropLast_concat]
          simp [removeLeast, ended, front]
        rw [List.concat_eq_append, moved]
        refine List.Perm.cons first ?_
        refine ((siftUp_perm _ _).trans (sinkToLeaf_perm _ _)).toList.trans ?_
        exact (List.perm_append_singleton last middle).symm

theorem values_insert_perm (heap : PriorityHeap α) (entry : Weighted α) :
    (heap.insert entry).values.Perm (entry.value :: heap.values) :=
  (heap.entries_insert_perm entry).map Weighted.value

theorem cons_values_removeLeast_perm {heap : PriorityHeap α} {least : Weighted α}
    (root : heap.least? = some least) : (least.value :: heap.removeLeast.values).Perm heap.values :=
  (cons_removeLeast_perm root).map Weighted.value

/-- Whatever happens to the priorities, the values stay. -/
theorem values_scale_perm (heap : PriorityHeap α) (factor : α) :
    (heap.scale factor).values.Perm heap.values := by
  have kept : ((heap.entries.map fun entry => { entry with priority := entry.priority * factor }).toList.map
      Weighted.value) = heap.values := by
    simp [values, Function.comp_def]
  rw [← kept]
  exact (foldl_siftDown_perm _ _).toList.map Weighted.value

omit [Number α] in
theorem length_values (heap : PriorityHeap α) : heap.values.length = heap.size := by
  simp [values, size]

theorem size_insert (heap : PriorityHeap α) (entry : Weighted α) :
    (heap.insert entry).size = heap.size + 1 := by
  rw [← length_values, (heap.values_insert_perm entry).length_eq, List.length_cons, length_values]

theorem size_removeLeast {heap : PriorityHeap α} {least : Weighted α} (root : heap.least? = some least) :
    heap.removeLeast.size + 1 = heap.size := by
  rw [← length_values heap, ← (cons_values_removeLeast_perm root).length_eq, List.length_cons, length_values]

theorem size_scale (heap : PriorityHeap α) (factor : α) : (heap.scale factor).size = heap.size := by
  rw [← length_values, (heap.values_scale_perm factor).length_eq, length_values]

end MetricAggregation.PriorityHeap
