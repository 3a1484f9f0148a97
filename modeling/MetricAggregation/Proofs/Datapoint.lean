import MetricAggregation.Datapoint
import MetricAggregation.Proofs.Sorting

/-!
Paths are told apart by the names under a stem, and sorting by path is stable.
-/

namespace MetricAggregation

theorem joinPath_inj {stem left right : String} : joinPath stem left = joinPath stem right ↔ left = right := by
  unfold joinPath
  split
  · rfl
  · split
    · exact String.append_right_inj stem
    · exact String.append_right_inj (stem ++ ".")

/-- Where no two entries share a name, only an entry itself has its name. -/
theorem filter_eq_singleton_of_nodup {β : Type} {name : β → String} {entries : List β} {entry : β}
    (nodup : (entries.map name).Nodup) (member : entry ∈ entries) :
    entries.filter (fun other => name other = name entry) = [entry] := by
  obtain ⟨before, after, rfl⟩ := List.append_of_mem member
  simp only [List.map_append, List.map_cons, List.nodup_append, List.nodup_cons] at nodup
  obtain ⟨_, ⟨notAfter, _⟩, apart⟩ := nodup
  have earlier : before.filter (fun other => name other = name entry) = [] := by
    rw [List.filter_eq_nil_iff]
    intro other found same
    exact apart _ (List.mem_map_of_mem found) _ List.mem_cons_self (of_decide_eq_true same)
  have later : after.filter (fun other => name other = name entry) = [] := by
    rw [List.filter_eq_nil_iff]
    intro other found same
    exact notAfter (of_decide_eq_true same ▸ List.mem_map_of_mem found)
  rw [List.filter_append, List.filter_cons_of_pos (by simp), earlier, later, List.nil_append]

theorem sortByPath_perm {α : Type} (points : List (Datapoint α)) : (sortByPath points).Perm points :=
  List.mergeSort_perm _ _

theorem filter_sortByPath {α : Type} (points : List (Datapoint α)) (path : String) :
    (sortByPath points).filter (fun point => point.path = path) =
      points.filter fun point => point.path = path := by
  apply filter_mergeSort_of_shared Datapoint.path
  intro left _ right _ leftPath rightPath
  rw [of_decide_eq_true leftPath, of_decide_eq_true rightPath]

end MetricAggregation
