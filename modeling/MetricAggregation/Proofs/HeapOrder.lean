import MetricAggregation.Proofs.ExactNumber
import MetricAggregation.Proofs.PriorityHeap

/-!
The order of a heap. Entries that rise and sink leave no entry below its parent, so the root is the least one.
Scaling all priorities by a positive factor moves no entry of a heap that has this order.
-/

namespace MetricAggregation

variable {α : Type}

def Weighted.scaled [Number α] (factor : α) (entry : Weighted α) : Weighted α :=
  { entry with priority := entry.priority * factor }

namespace PriorityHeap

theorem map_swapIfInBounds {β : Type} (change : α → β) (entries : Array α) (first second : Nat) :
    (entries.map change).swapIfInBounds first second = (entries.swapIfInBounds first second).map change := by
  apply Array.ext
  · simp
  · intro position _ _
    simp only [Array.getElem_swapIfInBounds, Array.getElem_map, Array.size_map]
    split_ifs
    all_goals rfl

section Relabeling

variable [Number α] {change : Weighted α → Weighted α}

/-- A change of entries that no comparison of them notices. -/
def KeepsOrder (change : Weighted α → Weighted α) : Prop :=
  ∀ left right, atMost (change left) (change right) = atMost left right

theorem KeepsOrder.siftUp (keeps : KeepsOrder change) (entries : Array (Weighted α)) (position : Nat) :
    siftUp (entries.map change) position = (siftUp entries position).map change := by
  induction position using Nat.strongRecOn generalizing entries with
  | ind position ih =>
      rw [PriorityHeap.siftUp, PriorityHeap.siftUp.eq_def entries]
      by_cases root : position = 0
      · simp only [root, if_true]
      · simp only [root, if_false, Array.getElem?_map]
        cases entries[(position - 1) / 2]? with
        | none => rfl
        | some upper =>
            cases entries[position]? with
            | none => rfl
            | some lower =>
                simp only [Option.map_some, keeps upper lower]
                split
                · rfl
                · rw [map_swapIfInBounds]
                  exact ih _ (by omega) _

theorem KeepsOrder.lesserChild? (keeps : KeepsOrder change) (entries : Array (Weighted α)) (position : Nat) :
    lesserChild? (entries.map change) position = lesserChild? entries position := by
  unfold PriorityHeap.lesserChild?
  simp only [Array.getElem?_map]
  cases entries[2 * position + 1]? with
  | none => rfl
  | some first =>
      cases entries[2 * position + 1 + 1]? with
      | none => rfl
      | some second => simp only [Option.map_some, keeps second first]

theorem sinkToLeaf_of_leaf {entries : Array (Weighted α)} {position : Nat}
    (leaf : lesserChild? entries position = none) : sinkToLeaf entries position = (entries, position) := by
  rw [sinkToLeaf]
  split
  · rfl
  · rename_i found
    rw [leaf] at found
    cases found

theorem sinkToLeaf_of_child {entries : Array (Weighted α)} {position child : Nat}
    (found : lesserChild? entries position = some child) :
    sinkToLeaf entries position = sinkToLeaf (entries.swapIfInBounds position child) child := by
  rw [sinkToLeaf]
  split
  · rename_i leaf
    rw [leaf] at found
    cases found
  · rename_i other same
    rw [found, Option.some.injEq] at same
    rw [same]

theorem KeepsOrder.sinkToLeaf (keeps : KeepsOrder change) (entries : Array (Weighted α)) (position : Nat) :
    sinkToLeaf (entries.map change) position =
      ((sinkToLeaf entries position).1.map change, (sinkToLeaf entries position).2) := by
  induction entries, position using sinkToLeaf.induct with
  | case1 entries position leaf =>
      rw [sinkToLeaf_of_leaf leaf, sinkToLeaf_of_leaf ((keeps.lesserChild? _ _).trans leaf)]
  | case2 entries position child found ih =>
      rw [sinkToLeaf_of_child found, sinkToLeaf_of_child ((keeps.lesserChild? _ _).trans found),
        map_swapIfInBounds]
      exact ih

def relabel (heap : PriorityHeap α) (change : Weighted α → Weighted α) : PriorityHeap α :=
  ⟨heap.entries.map change⟩

omit [Number α] in
@[simp] theorem size_relabel (heap : PriorityHeap α) : (heap.relabel change).size = heap.size :=
  Array.size_map

omit [Number α] in
theorem least?_relabel (heap : PriorityHeap α) : (heap.relabel change).least? = heap.least?.map change :=
  Array.getElem?_map

theorem KeepsOrder.insert (keeps : KeepsOrder change) (heap : PriorityHeap α) (entry : Weighted α) :
    (heap.relabel change).insert (change entry) = (heap.insert entry).relabel change := by
  simp only [PriorityHeap.insert, relabel, ← Array.map_push, Array.size_map, keeps.siftUp]

theorem KeepsOrder.removeLeast (keeps : KeepsOrder change) (heap : PriorityHeap α) :
    (heap.relabel change).removeLeast = heap.removeLeast.relabel change := by
  unfold PriorityHeap.removeLeast
  rw [relabel, Array.back?_map]
  cases heap.entries.back? with
  | none => rfl
  | some last =>
      simp only [Option.map_some, relabel, ← Array.map_pop, ← Array.map_setIfInBounds, keeps.sinkToLeaf,
        keeps.siftUp]

end Relabeling

variable [ExactNumber α]

def priorityAt (entries : Array (Weighted α)) (position : Nat) : α :=
  (entries[position]?.map Weighted.priority).getD 0

theorem priorityAt_of_getElem? {entries : Array (Weighted α)} {position : Nat} {entry : Weighted α}
    (found : entries[position]? = some entry) : priorityAt entries position = entry.priority := by
  rw [priorityAt, found, Option.map_some, Option.getD_some]

theorem atMost_iff {left right : Weighted α} : atMost left right ↔ left.priority ≤ right.priority := by
  rw [atMost, ExactNumber.totalLE_eq, decide_eq_true_eq]

theorem priorityAt_swap {entries : Array (Weighted α)} {first second : Nat} (firstBound : first < entries.size)
    (secondBound : second < entries.size) (position : Nat) :
    priorityAt (entries.swapIfInBounds first second) position =
      priorityAt entries (if position = first then second else if position = second then first else position) := by
  unfold priorityAt
  rw [Array.swapIfInBounds_def, dif_pos firstBound, dif_pos secondBound, Array.getElem?_swap]
  by_cases atSecond : second = position
  · subst atSecond
    by_cases same : second = first
    · simp [same, firstBound]
    · simp [same, firstBound]
  · by_cases atFirst : first = position
    · subst atFirst
      simp [atSecond, secondBound]
    · simp [atSecond, atFirst, Ne.symm atSecond, Ne.symm atFirst]

/-- No entry is below its parent. -/
def Ordered (entries : Array (Weighted α)) : Prop :=
  ∀ position, 0 < position → position < entries.size →
    priorityAt entries ((position - 1) / 2) ≤ priorityAt entries position

/-- The order holds but for the entry at one position, which its parent and its children are compared across. -/
structure OrderedAround (entries : Array (Weighted α)) (hole : Nat) : Prop where
  others : ∀ position, 0 < position → position < entries.size → position ≠ hole → (position - 1) / 2 ≠ hole →
    priorityAt entries ((position - 1) / 2) ≤ priorityAt entries position
  across : 0 < hole → ∀ position, 0 < position → position < entries.size → (position - 1) / 2 = hole →
    priorityAt entries ((hole - 1) / 2) ≤ priorityAt entries position

/-- An entry that may be below its parent, but is not above its children. -/
structure Rising (entries : Array (Weighted α)) (hole : Nat) : Prop extends OrderedAround entries hole where
  below : ∀ position, 0 < position → position < entries.size → (position - 1) / 2 = hole →
    priorityAt entries hole ≤ priorityAt entries position

theorem Rising.ordered {entries : Array (Weighted α)} {hole : Nat} (rising : Rising entries hole)
    (risen : 0 < hole → priorityAt entries ((hole - 1) / 2) ≤ priorityAt entries hole) : Ordered entries := by
  intro position positive inside
  by_cases atHole : position = hole
  · subst atHole
    exact risen positive
  · by_cases child : (position - 1) / 2 = hole
    · rw [child]
      exact rising.below position positive inside child
    · exact rising.others position positive inside atHole child

theorem Rising.swap {entries : Array (Weighted α)} {hole : Nat} (rising : Rising entries hole)
    (positive : 0 < hole) (bound : hole < entries.size)
    (less : priorityAt entries hole < priorityAt entries ((hole - 1) / 2)) :
    Rising (entries.swapIfInBounds hole ((hole - 1) / 2)) ((hole - 1) / 2) := by
  have swapped := priorityAt_swap bound (show (hole - 1) / 2 < entries.size by omega)
  generalize parentEq : (hole - 1) / 2 = parent at less swapped ⊢
  have above : parent < hole := by omega
  -- The siblings of the risen entry were not below the entry that it rose above.
  have sibling : ∀ position, 0 < position → position < entries.size → position ≠ hole →
      (position - 1) / 2 = parent → priorityAt entries parent ≤ priorityAt entries position := by
    intro position later inside other child
    have kept := rising.others position later inside other (by omega)
    rwa [child] at kept
  refine ⟨⟨?_, ?_⟩, ?_⟩
  all_goals simp only [Array.size_swapIfInBounds, swapped, if_neg above.ne]
  · intro position later inside other child
    rw [if_neg child]
    by_cases sunk : (position - 1) / 2 = hole
    · rw [if_pos sunk, if_neg (show position ≠ hole by omega), if_neg other, ← parentEq]
      exact rising.across positive position later inside sunk
    · rw [if_neg sunk, if_neg (show position ≠ hole by omega), if_neg other]
      exact rising.others position later inside (by omega) sunk
  · intro parentPositive position later inside child
    have upper := rising.others parent parentPositive (by omega) above.ne (by omega)
    rw [if_neg (show (parent - 1) / 2 ≠ hole by omega), if_neg (show (parent - 1) / 2 ≠ parent by omega)]
    by_cases risen : position = hole
    · rw [if_pos risen]
      exact upper
    · rw [if_neg risen, if_neg (show position ≠ parent by omega)]
      exact upper.trans (sibling position later inside risen child)
  · intro position later inside child
    rw [if_pos trivial]
    by_cases risen : position = hole
    · rw [if_pos risen]
      exact less.le
    · rw [if_neg risen, if_neg (show position ≠ parent by omega)]
      exact less.le.trans (sibling position later inside risen child)

theorem Rising.siftUp {entries : Array (Weighted α)} {hole : Nat} (rising : Rising entries hole)
    (bound : hole < entries.size) : Ordered (siftUp entries hole) := by
  induction hole using Nat.strongRecOn generalizing entries with
  | ind hole ih =>
      rw [PriorityHeap.siftUp]
      by_cases root : hole = 0
      · rw [if_pos root]
        exact rising.ordered fun positive => absurd root (by omega)
      · rw [if_neg root]
        have upper : entries[(hole - 1) / 2]? = some entries[(hole - 1) / 2] :=
          Array.getElem?_eq_getElem (by omega)
        have lower : entries[hole]? = some entries[hole] := Array.getElem?_eq_getElem bound
        simp only [upper, lower]
        split
        · rename_i risen
          refine rising.ordered fun _ => ?_
          rw [priorityAt_of_getElem? upper, priorityAt_of_getElem? lower]
          exact atMost_iff.mp risen
        · rename_i less
          rw [atMost_iff, not_le] at less
          refine ih ((hole - 1) / 2) (by omega) (rising.swap (by omega) bound ?_) ?_
          · rw [priorityAt_of_getElem? upper, priorityAt_of_getElem? lower]
            exact less
          · rw [Array.size_swapIfInBounds]
            omega

theorem lesserChild?_least {entries : Array (Weighted α)} {position child : Nat}
    (found : lesserChild? entries position = some child) :
    (child - 1) / 2 = position ∧ ∀ other, 0 < other → other < entries.size → (other - 1) / 2 = position →
      priorityAt entries child ≤ priorityAt entries other := by
  unfold lesserChild? at found
  dsimp only at found
  split at found
  · rename_i first second firstEq secondEq
    have firstAt := priorityAt_of_getElem? firstEq
    have secondAt := priorityAt_of_getElem? secondEq
    have children : ∀ other, 0 < other → (other - 1) / 2 = position →
        other = 2 * position + 1 ∨ other = 2 * position + 1 + 1 := by
      intro other positive same
      omega
    split at found
    · rename_i lesser
      rw [atMost_iff, ← firstAt, ← secondAt] at lesser
      cases found
      refine ⟨by omega, fun other positive _ same => ?_⟩
      rcases children other positive same with rfl | rfl
      · exact lesser
      · exact le_rfl
    · rename_i lesser
      rw [atMost_iff, ← firstAt, ← secondAt, not_le] at lesser
      cases found
      refine ⟨by omega, fun other positive _ same => ?_⟩
      rcases children other positive same with rfl | rfl
      · exact le_rfl
      · exact lesser.le
  · rename_i first firstEq ended
    cases found
    refine ⟨by omega, fun other positive inside same => ?_⟩
    rw [Array.getElem?_eq_none_iff] at ended
    obtain rfl : other = 2 * position + 1 := by omega
    exact le_rfl
  · cases found

theorem size_le_of_leaf {entries : Array (Weighted α)} {position : Nat}
    (leaf : lesserChild? entries position = none) : entries.size ≤ 2 * position + 1 := by
  unfold lesserChild? at leaf
  dsimp only at leaf
  split at leaf
  · cases leaf
  · cases leaf
  · rename_i ended
    exact Array.getElem?_eq_none_iff.mp ended

theorem OrderedAround.sink {entries : Array (Weighted α)} {hole child : Nat}
    (around : OrderedAround entries hole) (found : lesserChild? entries hole = some child) :
    OrderedAround (entries.swapIfInBounds hole child) child := by
  obtain ⟨below, bound⟩ := lesserChild?_bounds found
  obtain ⟨parent, least⟩ := lesserChild?_least found
  have swapped := priorityAt_swap (show hole < entries.size by omega) bound
  refine ⟨?_, ?_⟩
  all_goals simp only [Array.size_swapIfInBounds, swapped]
  · intro position positive inside other grandchild
    rw [if_neg grandchild, if_neg other]
    by_cases atHole : position = hole
    · subst atHole
      rw [if_pos rfl, if_neg (show (position - 1) / 2 ≠ position by omega)]
      exact around.across positive child (by omega) bound parent
    · rw [if_neg atHole]
      by_cases sibling : (position - 1) / 2 = hole
      · rw [if_pos sibling]
        exact least position positive inside sibling
      · rw [if_neg sibling]
        exact around.others position positive inside atHole sibling
  · intro _ position positive inside grandchild
    rw [parent, if_pos rfl, if_neg (show position ≠ hole by omega), if_neg (show position ≠ child by omega)]
    have kept := around.others position positive inside (by omega) (by omega)
    rwa [grandchild] at kept

theorem OrderedAround.sinkToLeaf {entries : Array (Weighted α)} {hole : Nat}
    (around : OrderedAround entries hole) (bound : hole < entries.size) :
    Rising (sinkToLeaf entries hole).1 (sinkToLeaf entries hole).2 ∧
      (sinkToLeaf entries hole).2 < (sinkToLeaf entries hole).1.size := by
  induction entries, hole using sinkToLeaf.induct with
  | case1 entries position leaf =>
      rw [sinkToLeaf_of_leaf leaf]
      have ended := size_le_of_leaf leaf
      refine ⟨⟨around, fun other positive inside child => ?_⟩, bound⟩
      dsimp only at inside child
      omega
  | case2 entries position child found ih =>
      rw [sinkToLeaf_of_child found]
      refine ih (around.sink found) ?_
      rw [Array.size_swapIfInBounds]
      exact (lesserChild?_bounds found).2

theorem ordered_empty : Ordered (empty : PriorityHeap α).entries := by
  intro position _ inside
  simp [empty] at inside

theorem Ordered.insert {heap : PriorityHeap α} (ordered : Ordered heap.entries) (entry : Weighted α) :
    Ordered (heap.insert entry).entries := by
  have kept : ∀ position, position < heap.entries.size →
      priorityAt (heap.entries.push entry) position = priorityAt heap.entries position := by
    intro position inside
    rw [priorityAt, Array.getElem?_push, if_neg inside.ne, priorityAt]
  refine Rising.siftUp ⟨⟨?_, ?_⟩, ?_⟩ (by simp)
  all_goals simp only [Array.size_push]
  · intro position positive inside other _
    rw [kept position (by omega), kept _ (by omega)]
    exact ordered position positive (by omega)
  · intro _ position positive inside child
    omega
  · intro position positive inside child
    omega

theorem Ordered.removeLeast {heap : PriorityHeap α} (ordered : Ordered heap.entries) :
    Ordered heap.removeLeast.entries := by
  unfold PriorityHeap.removeLeast
  split
  · exact ordered
  · rename_i last _
    dsimp only
    by_cases single : heap.entries.size ≤ 1
    · -- Nothing is left of a heap with one entry.
      intro position positive inside
      rw [(siftUp_perm _ _).size_eq, (sinkToLeaf_perm _ _).size_eq, Array.size_setIfInBounds,
        Array.size_pop] at inside
      omega
    · have kept : ∀ position, 0 < position → position < heap.entries.size - 1 →
          priorityAt (heap.entries.pop.setIfInBounds 0 last) position = priorityAt heap.entries position := by
        intro position positive inside
        rw [priorityAt, Array.getElem?_setIfInBounds, if_neg positive.ne, Array.getElem?_pop, if_pos inside,
          priorityAt]
      have around : OrderedAround (heap.entries.pop.setIfInBounds 0 last) 0 := by
        refine ⟨?_, fun positive => absurd positive (lt_irrefl 0)⟩
        simp only [Array.size_setIfInBounds, Array.size_pop]
        intro position positive inside _ child
        rw [kept position positive inside, kept _ (Nat.pos_of_ne_zero child) (by omega)]
        exact ordered position positive (by omega)
      have bound : 0 < (heap.entries.pop.setIfInBounds 0 last).size := by
        rw [Array.size_setIfInBounds, Array.size_pop]
        omega
      obtain ⟨rising, inside⟩ := around.sinkToLeaf bound
      exact rising.siftUp inside

theorem Ordered.root_le {entries : Array (Weighted α)} (ordered : Ordered entries) {position : Nat}
    (inside : position < entries.size) : priorityAt entries 0 ≤ priorityAt entries position := by
  induction position using Nat.strongRecOn with
  | ind position ih =>
      rcases Nat.eq_zero_or_pos position with rfl | positive
      · exact le_rfl
      · exact (ih ((position - 1) / 2) (by omega) (by omega)).trans (ordered position positive inside)

theorem Ordered.least_le {heap : PriorityHeap α} (ordered : Ordered heap.entries) {least entry : Weighted α}
    (root : heap.least? = some least) (member : entry ∈ heap.entries.toList) :
    least.priority ≤ entry.priority := by
  obtain ⟨position, found⟩ := List.mem_iff_getElem?.mp member
  rw [Array.getElem?_toList] at found
  rw [← priorityAt_of_getElem? root, ← priorityAt_of_getElem? found]
  exact ordered.root_le (Array.getElem?_eq_some_iff.mp found).1

theorem siftDown_of_ordered {entries : Array (Weighted α)} (ordered : Ordered entries) (position : Nat) :
    siftDown entries position = entries := by
  rw [siftDown]
  split
  · rfl
  · rename_i child found
    obtain ⟨below, bound⟩ := lesserChild?_bounds found
    obtain ⟨parent, _⟩ := lesserChild?_least found
    split
    · rename_i upper lower upperEq lowerEq
      have kept := ordered child (by omega) bound
      rw [parent, priorityAt_of_getElem? upperEq, priorityAt_of_getElem? lowerEq, ← atMost_iff] at kept
      rw [if_pos kept]
    · rfl

theorem foldl_siftDown_of_ordered {entries : Array (Weighted α)} (ordered : Ordered entries)
    (positions : List Nat) : positions.foldl siftDown entries = entries := by
  induction positions with
  | nil => rfl
  | cons position rest ih =>
      rw [List.foldl_cons, siftDown_of_ordered ordered]
      exact ih

theorem keepsOrder_scaled {factor : α} (positive : 0 < factor) : KeepsOrder (Weighted.scaled factor) := by
  intro left right
  rw [Bool.eq_iff_iff, atMost_iff, atMost_iff]
  exact mul_le_mul_iff_left₀ positive

theorem priorityAt_scaled (entries : Array (Weighted α)) (factor : α) (position : Nat) :
    priorityAt (entries.map (Weighted.scaled factor)) position = priorityAt entries position * factor := by
  unfold priorityAt
  rw [Array.getElem?_map]
  cases entries[position]? with
  | none => exact (zero_mul factor).symm
  | some entry => rfl

theorem Ordered.scaled {entries : Array (Weighted α)} (ordered : Ordered entries) {factor : α}
    (positive : 0 < factor) : Ordered (entries.map (Weighted.scaled factor)) := by
  intro position later inside
  rw [Array.size_map] at inside
  rw [priorityAt_scaled, priorityAt_scaled]
  exact (mul_le_mul_iff_left₀ positive).mpr (ordered position later inside)

theorem Ordered.scale {heap : PriorityHeap α} (ordered : Ordered heap.entries) {factor : α}
    (positive : 0 < factor) : heap.scale factor = heap.relabel (Weighted.scaled factor) :=
  congrArg PriorityHeap.mk (foldl_siftDown_of_ordered (ordered.scaled positive) _)

end PriorityHeap

end MetricAggregation
