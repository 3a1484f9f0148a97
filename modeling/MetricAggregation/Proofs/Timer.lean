import MetricAggregation.Metric.Timer
import MetricAggregation.Proofs.Datapoint

/-!
What a duration and a flush change in a timer, and where its count and its rate stand among its statistics.
-/

namespace MetricAggregation

variable {α : Type} [Number α]

theorem Histogram.length_percentiles (histogram : Histogram α) (percentiles : List α) :
    (histogram.percentiles percentiles).length = percentiles.length := by
  unfold Histogram.percentiles
  dsimp only
  split
  · exact List.length_map _
  · exact List.length_map _

namespace Timer

@[simp] theorem count_update (timer : Timer α) (duration now : α) :
    (timer.update duration now).count = timer.count + 1 := by
  unfold update
  split
  · rfl
  · rfl

theorem recorded_update (timer : Timer α) (duration now : α) :
    (timer.update duration now).recorded = timer.recorded + if 0 ≤ duration then 1 else 0 := by
  unfold update
  split
  · rfl
  · rfl

@[simp] theorem lastFlush_update (timer : Timer α) (duration now : α) :
    (timer.update duration now).lastFlush = timer.lastFlush := by
  unfold update
  split
  · rfl
  · rfl

@[simp] theorem policy_update (timer : Timer α) (duration now : α) :
    (timer.update duration now).policy = timer.policy := by
  unfold update
  split
  · rfl
  · rfl

omit [Number α] in
theorem isIdle_iff {timer : Timer α} : timer.isIdle ↔ timer.policy = .resetOnFlush ∧ timer.count = 0 := by
  simp [isIdle]

theorem filter_quantiles (percent : Nat) (name : String) (plain : name = "count" ∨ name = "rate")
    (scores : List α) :
    ((((upperQuantile percent : Quantile α) :: quantiles).map Quantile.label).zip scores).filter
      (fun entry => entry.1 = name) = [] := by
  rw [List.filter_eq_nil_iff]
  rintro ⟨label, score⟩ member
  have labelled := (List.of_mem_zip member).1
  have first : label.toList.head? ≠ name.toList.head? := by
    simp only [List.map_cons, quantiles, List.map_nil, List.mem_cons, List.not_mem_nil, or_false] at labelled
    rcases labelled with rfl | rfl | rfl | rfl | rfl | rfl | rfl
    · rcases plain with rfl | rfl <;> simp [upperQuantile]
    all_goals rcases plain with rfl | rfl <;> decide
  rw [decide_eq_true_eq]
  rintro rfl
  exact first rfl

theorem filter_statistics_count (timer : Timer α) (percent : Nat) (now : α) :
    (timer.statistics percent now).filter (fun entry => entry.1 = "count") =
      [("count", (timer.count : α))] := by
  rw [statistics, List.filter_append, filter_quantiles percent "count" (.inl rfl)]
  simp

theorem filter_statistics_rate (timer : Timer α) (percent : Nat) (now : α) :
    (timer.statistics percent now).filter (fun entry => entry.1 = "rate") =
      [("rate", timer.rate now)] := by
  rw [statistics, List.filter_append, filter_quantiles percent "rate" (.inr rfl)]
  simp

theorem filter_report (timer : Timer α) (path name : String) (percent timestamp : Nat) :
    ((timer.report path percent timestamp).filter fun point => point.path = joinPath path name).map
        Datapoint.value =
      ((timer.statistics percent (timestamp : α)).filter fun entry => entry.1 = name).map
        fun entry => Number.roundToMicro entry.2 := by
  rw [report, filter_sortByPath]
  simp [List.filter_map, Function.comp_def, joinPath_inj]

end Timer

end MetricAggregation
