import MetricAggregation.Number

/-!
Binary heaps of weighted values with the least priority at the root. The children of the entry at
position `n` stand at `2 * n + 1` and `2 * n + 2`. Where priorities are equal, the rules below still settle
which entry goes first: an entry rises only above greater ones, and of two equal children the second
rises.
-/

namespace MetricAggregation

/-- A value and its priority. -/
structure Weighted (α : Type) where
  priority : α
  value : α

/-- A heap, as the array of its entries. -/
structure PriorityHeap (α : Type) where
  entries : Array (Weighted α)

namespace PriorityHeap

variable {α : Type} [Number α]

def atMost (left right : Weighted α) : Bool := Number.totalLE left.priority right.priority

/-- Lets the entry at a position rise as long as its parent is greater. -/
def siftUp (entries : Array (Weighted α)) (position : Nat) : Array (Weighted α) :=
  if position = 0 then entries
  else
    let parent := (position - 1) / 2
    match entries[parent]?, entries[position]? with
    | some upper, some lower =>
      if atMost upper lower then entries
      else siftUp (entries.swapIfInBounds position parent) parent
    | _, _ => entries
termination_by position
decreasing_by omega

/-- The position of the lesser child of a position, if it has any. -/
def lesserChild? (entries : Array (Weighted α)) (position : Nat) : Option Nat :=
  let left := 2 * position + 1
  match entries[left]?, entries[left + 1]? with
  | some first, some second => some (if atMost second first then left + 1 else left)
  | some _, none => some left
  | none, _ => none

theorem lesserChild?_bounds {entries : Array (Weighted α)} {position child : Nat}
    (found : lesserChild? entries position = some child) :
    position < child ∧ child < entries.size := by
  unfold lesserChild? at found
  dsimp only at found
  split at found
  · rename_i second _ secondEq
    have secondBound := (Array.getElem?_eq_some_iff.mp secondEq).1
    split at found <;> (cases found; omega)
  · rename_i firstEq _
    have firstBound := (Array.getElem?_eq_some_iff.mp firstEq).1
    cases found
    omega
  · cases found

/-- Lets the entry at a position sink to a leaf, along the lesser children; gives its new position. -/
def sinkToLeaf (entries : Array (Weighted α)) (position : Nat) : Array (Weighted α) × Nat :=
  match _found : lesserChild? entries position with
  | none => (entries, position)
  | some child => sinkToLeaf (entries.swapIfInBounds position child) child
termination_by entries.size - position
decreasing_by
  have bounds := lesserChild?_bounds _found
  simp only [Array.size_swapIfInBounds]
  omega

/-- Lets the entry at a position sink as long as a child is less. -/
def siftDown (entries : Array (Weighted α)) (position : Nat) : Array (Weighted α) :=
  match _found : lesserChild? entries position with
  | none => entries
  | some child =>
    match entries[position]?, entries[child]? with
    | some upper, some lower =>
      if atMost upper lower then entries
      else siftDown (entries.swapIfInBounds position child) child
    | _, _ => entries
termination_by entries.size - position
decreasing_by
  have bounds := lesserChild?_bounds _found
  simp only [Array.size_swapIfInBounds]
  omega

def empty : PriorityHeap α := ⟨#[]⟩

def size (heap : PriorityHeap α) : Nat := heap.entries.size

def values (heap : PriorityHeap α) : List α := heap.entries.toList.map Weighted.value

/-- An entry whose priority no other is below. -/
def least? (heap : PriorityHeap α) : Option (Weighted α) := heap.entries[0]?

/-- Adds an entry at the end and lets it rise. -/
def insert (heap : PriorityHeap α) (entry : Weighted α) : PriorityHeap α :=
  ⟨siftUp (heap.entries.push entry) heap.entries.size⟩

/-- Removes the root: the last entry takes its place, sinks to a leaf and rises from there. -/
def removeLeast (heap : PriorityHeap α) : PriorityHeap α :=
  match heap.entries.back? with
  | none => heap
  | some last =>
    let (entries, position) := sinkToLeaf (heap.entries.pop.setIfInBounds 0 last) 0
    ⟨siftUp entries position⟩

/-- Makes a heap of entries in any order, by letting those that have children sink, the last one first. -/
def ofEntries (entries : Array (Weighted α)) : PriorityHeap α :=
  ⟨(List.range (entries.size / 2)).reverse.foldl siftDown entries⟩

def scale (heap : PriorityHeap α) (factor : α) : PriorityHeap α :=
  ofEntries (heap.entries.map fun entry => { entry with priority := entry.priority * factor })

end PriorityHeap

end MetricAggregation
