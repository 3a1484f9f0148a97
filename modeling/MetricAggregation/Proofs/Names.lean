import Mathlib.Data.List.Sort
import Mathlib.Data.String.Basic

/-!
Lists of names without repetitions: the repetitions in a sorted list are next to each other.
-/

namespace MetricAggregation

theorem eraseReps_loop {β : Type} (same : β → β → Bool) (rest : List β) :
    ∀ (current : β) (done : List β), List.eraseRepsBy.loop same current rest done =
      done.reverse ++ List.eraseRepsBy.loop same current rest [] := by
  induction rest with
  | nil => simp [List.eraseRepsBy.loop]
  | cons next rest ih =>
      intro current done
      simp only [List.eraseRepsBy.loop]
      cases same current next with
      | true => exact ih current done
      | false =>
          simp only
          rw [ih next (current :: done), ih next [current]]
          simp

theorem eraseReps_cons_cons {β : Type} [BEq β] (first second : β) (rest : List β) :
    (first :: second :: rest).eraseReps =
      if first == second then (first :: rest).eraseReps else first :: (second :: rest).eraseReps := by
  simp only [List.eraseReps, List.eraseRepsBy, List.eraseRepsBy.loop]
  cases first == second with
  | true => rfl
  | false => exact eraseReps_loop _ rest second [first]

theorem mem_eraseReps {name : String} (names : List String) : name ∈ names.eraseReps ↔ name ∈ names := by
  induction names with
  | nil => rfl
  | cons first rest ih =>
      cases rest with
      | nil => rfl
      | cons second rest =>
          rw [eraseReps_cons_cons]
          by_cases same : first = second
          · subst second
            simp only [BEq.rfl, if_true, ih, List.mem_cons, or_self_left]
          · simp only [beq_iff_eq, same, if_false, List.mem_cons (a := name), ih]

theorem pairwise_eraseReps_lt (names : List String) (ordered : names.Pairwise (· ≤ ·)) :
    names.eraseReps.Pairwise (· < ·) := by
  induction names with
  | nil => exact .nil
  | cons first rest ih =>
      cases rest with
      | nil => exact List.pairwise_singleton _ _
      | cons second rest =>
          have others := ih ordered.of_cons
          rw [eraseReps_cons_cons]
          by_cases same : first = second
          · subst second
            simpa only [BEq.rfl, if_true] using others
          · simp only [beq_iff_eq, same, if_false, List.pairwise_cons]
            refine ⟨?_, others⟩
            intro name member
            rw [mem_eraseReps] at member
            have lowest := List.rel_of_pairwise_cons ordered List.mem_cons_self
            have below : first < second := lt_of_le_of_ne lowest same
            rcases List.mem_cons.mp member with rfl | later
            · exact below
            · exact lt_of_lt_of_le below (List.rel_of_pairwise_cons ordered.of_cons later)

end MetricAggregation
