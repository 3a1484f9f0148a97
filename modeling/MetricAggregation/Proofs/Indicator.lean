import MetricAggregation.Proofs.Datapoint
import MetricAggregation.Proofs.Outcome
import MetricAggregation.ServiceLevel.Indicator

/-!
What a measurement changes in a service level indicator, and what an indicator reports under a name.
-/

namespace MetricAggregation.Indicator

variable {α : Type}

theorem filter_conditions (conditions : List (ConditionCount α)) (name : String)
    (plain : name = "count" ∨ name = "error") :
    (conditions.map fun entry => ("count_" ++ entry.label, entry.count)).filter
      (fun entry => entry.1 = name) = [] := by
  rw [List.filter_eq_nil_iff]
  intro entry member
  obtain ⟨condition, _, rfl⟩ := List.mem_map.mp member
  rw [decide_eq_true_eq]
  intro same
  have letter := congrArg (fun text => text.toList[5]?) same
  rcases plain with rfl | rfl
  · simp at letter
  · simp at letter

theorem filter_statistics_count (indicator : Indicator α) :
    indicator.statistics.filter (fun entry => entry.1 = "count") = [("count", indicator.count)] := by
  rw [statistics, List.filter_append, List.filter_cons, filter_conditions _ "count" (.inl rfl)]
  simp

theorem filter_statistics_error (indicator : Indicator α) :
    indicator.statistics.filter (fun entry => entry.1 = "error") = [("error", indicator.errors)] := by
  rw [statistics, List.filter_append, List.filter_cons, filter_conditions _ "error" (.inr rfl)]
  simp

variable [Number α]

theorem process_cases {indicator changed : Indicator α} {fields : Fields}
    (processed : indicator.process fields = .ok changed) :
    (fields.value = errorValue ∧ changed = indicator.updateError) ∨
      fields.value ≠ errorValue ∧ ∃ value size, changed = indicator.update value size := by
  simp only [process, Except.bind_eq_ok_iff] at processed
  obtain ⟨size, _, processed⟩ := processed
  by_cases failed : fields.value = errorValue
  · rw [if_pos failed, Except.pure_eq_ok_iff] at processed
    exact .inl ⟨failed, processed.symm⟩
  · simp only [if_neg failed, Except.bind_eq_ok_iff, Except.pure_eq_ok_iff] at processed
    obtain ⟨value, _, rfl⟩ := processed
    exact .inr ⟨failed, value, size, rfl⟩

theorem filter_report (indicator : Indicator α) (path name : String) (timestamp : Nat) :
    ((indicator.report path timestamp).filter fun point => point.path = joinPath path name).map
        Datapoint.value =
      (indicator.statistics.filter fun entry => entry.1 = name).map fun entry => (entry.2 : α) := by
  rw [report, filter_sortByPath]
  simp [List.filter_map, Function.comp_def, joinPath_inj]

end MetricAggregation.Indicator
