import Mathlib.Data.List.Count
import Mathlib.Data.List.Perm.Basic

/-!
Interleavings of what several clients do, each in its own order.
-/

namespace MetricAggregation

variable {ι β γ : Type} [DecidableEq ι]

def turnsOf (client : ι) (schedule : List (ι × β)) : List β :=
  (schedule.filter fun turn => turn.1 = client).map Prod.snd

/-- A schedule gives every client all of its turns, in its order. -/
def Interleaves (clients : ι → List β) (schedule : List (ι × β)) : Prop :=
  ∀ client, turnsOf client schedule = clients client

theorem turnsOf_cons_own (client : ι) (item : β) (rest : List (ι × β)) :
    turnsOf client ((client, item) :: rest) = item :: turnsOf client rest := by
  simp [turnsOf]

theorem turnsOf_cons_other {client other : ι} (miss : other ≠ client) (item : β) (rest : List (ι × β)) :
    turnsOf client ((other, item) :: rest) = turnsOf client rest := by
  simp [turnsOf, miss]

theorem turnsOf_append (client : ι) (left right : List (ι × β)) :
    turnsOf client (left ++ right) = turnsOf client left ++ turnsOf client right := by
  simp only [turnsOf, List.filter_append, List.map_append]

theorem count_turnsOf [DecidableEq β] (client : ι) (item : β) (schedule : List (ι × β)) :
    (turnsOf client schedule).count item = schedule.count (client, item) := by
  induction schedule with
  | nil => rfl
  | cons turn rest ih =>
      obtain ⟨other, given⟩ := turn
      by_cases own : other = client
      · subst other
        rw [turnsOf_cons_own, List.count_cons, List.count_cons, ih]
        simp
      · rw [turnsOf_cons_other own, List.count_cons_of_ne (by simp [own]), ih]

theorem Interleaves.perm {clients : ι → List β} {first second : List (ι × β)}
    (firstKeeps : Interleaves clients first) (secondKeeps : Interleaves clients second) :
    first.Perm second := by
  classical
  -- A turn is in both as often as its client takes it.
  rw [List.perm_iff_count]
  rintro ⟨client, item⟩
  rw [← count_turnsOf, ← count_turnsOf, firstKeeps client, secondKeeps client]

theorem turnsOf_flatMap (client : ι) (values : β → List γ) (schedule : List (ι × β)) :
    turnsOf client (schedule.flatMap fun turn => (values turn.2).map (Prod.mk turn.1)) =
      (turnsOf client schedule).flatMap values := by
  induction schedule with
  | nil => rfl
  | cons turn rest ih =>
      obtain ⟨other, item⟩ := turn
      rw [List.flatMap_cons, turnsOf_append, ih]
      by_cases own : other = client
      · subst other
        rw [turnsOf_cons_own, List.flatMap_cons]
        simp [turnsOf, List.filter_map, Function.comp_def]
      · rw [turnsOf_cons_other own]
        simp [turnsOf, List.filter_map, Function.comp_def, own]

/-- When every turn brings some values, those of a client come in its order. -/
theorem Interleaves.flatMap {clients : ι → List β} {schedule : List (ι × β)}
    (keeps : Interleaves clients schedule) (values : β → List γ) :
    Interleaves (fun client => (clients client).flatMap values)
      (schedule.flatMap fun turn => (values turn.2).map (Prod.mk turn.1)) := by
  intro client
  rw [turnsOf_flatMap, keeps client]

omit [DecidableEq ι] in
theorem map_snd_flatMap_turns (schedule : List (ι × β)) (values : β → List γ) :
    (schedule.flatMap fun turn => (values turn.2).map (Prod.mk turn.1)).map Prod.snd =
      (schedule.map Prod.snd).flatMap values := by
  simp [List.map_flatMap, List.flatMap_map, Function.comp_def]

end MetricAggregation
