import Mathlib.Data.List.Nodup
import MetricAggregation.Metric.Meter
import MetricAggregation.Plugin.Standard
import MetricAggregation.Proofs.Labels
import MetricAggregation.Proofs.Paths
import MetricAggregation.Proofs.Timer

/-!
The names under which metrics report their statistics. In a metric no two have the same name, and a name is
one part of a path.
-/

namespace MetricAggregation

/-- Names that tell the statistics of a metric apart, also in paths. -/
structure AreNames (names : List String) : Prop where
  nodup : names.Nodup
  undotted : ∀ name ∈ names, IsUndotted name

theorem IsUndotted.append {left right : String} (first : IsUndotted left) (second : IsUndotted right) :
    IsUndotted (left ++ right) := by
  unfold IsUndotted
  rw [String.toList_append, List.mem_append, not_or]
  exact ⟨first, second⟩

theorem isUndotted_toString (number : Nat) : IsUndotted (toString number) := by
  intro dotted
  rw [Nat.toString_eq_ofList_toDigits, String.toList_ofList] at dotted
  have digit := Nat.isDigit_of_mem_toDigits (by decide) (by decide) dotted
  exact absurd digit (by decide)

theorem isUndotted_of_isWord {text : String} (word : ∀ char ∈ text.toList, Text.isWord char) :
    IsUndotted text := by
  have apart : Text.isWord '.' = false := by decide +kernel
  intro dotted
  rw [word '.' dotted] at apart
  cases apart

/-- A list of named values has at most one value for each of its names. -/
theorem length_filter_fst_le_one {β : Type} {entries : List (String × β)}
    (nodup : (entries.map Prod.fst).Nodup) (name : String) :
    (entries.filter fun entry => entry.1 = name).length ≤ 1 := by
  have single := List.nodup_iff_count_le_one.mp nodup name
  rwa [List.count_eq_countP, List.countP_map, List.countP_eq_length_filter] at single

section Timers

variable {α : Type} [Number α]

def Timer.plainNames : List String := ["count", "max", "mean", "min", "rate", "stddev"]

def Timer.quantileNames : List String :=
  ["median", "75percentile", "95percentile", "98percentile", "99percentile", "999percentile"]

def Timer.names (percent : Nat) : List String :=
  plainNames ++ ("upper_" ++ toString percent) :: quantileNames

theorem Timer.map_fst_statistics (timer : Timer α) (percent : Nat) (now : α) :
    (timer.statistics percent now).map Prod.fst = names percent := by
  rw [statistics, List.map_append, List.map_fst_zip]
  · rfl
  · rw [Histogram.length_percentiles, List.length_map, List.length_map]

theorem Timer.areNames (percent : Nat) : AreNames (names percent) := by
  constructor
  · have others : (plainNames ++ quantileNames).Nodup := by decide
    have apart : ∀ name ∈ plainNames ++ quantileNames, name.toList.head? ≠ some 'u' := by decide
    rw [names, List.nodup_middle, List.nodup_cons]
    refine ⟨?_, others⟩
    intro member
    exact apart _ member (by simp)
  · have plain : ∀ name ∈ plainNames, IsUndotted name := by decide
    have quantile : ∀ name ∈ quantileNames, IsUndotted name := by decide
    intro name member
    rw [names, List.mem_append, List.mem_cons] at member
    rcases member with given | rfl | given
    · exact plain name given
    · exact .append (by decide) (isUndotted_toString percent)
    · exact quantile name given

end Timers

section Others

variable {α : Type} [Number α]

theorem Meter.areNames (meter : Meter α) (now : α) : AreNames ((meter.statistics now).map Prod.fst) := by
  change AreNames ["15min_rate", "1min_rate", "5min_rate", "count", "mean_rate"]
  exact ⟨by decide, by decide⟩

theorem DistinctMetric.areNames (metric : DistinctMetric α) (now : α) :
    AreNames ((metric.statistics now).map Prod.fst) := by
  change AreNames ["count", "count_1day", "count_1hour", "count_1min"]
  exact ⟨by decide, by decide⟩

omit [Number α] in
theorem Indicator.areNames {indicator : Indicator α}
    (nodup : (indicator.conditions.map ConditionCount.label).Nodup)
    (words : ∀ label ∈ indicator.conditions.map ConditionCount.label, ∀ char ∈ label.toList, Text.isWord char) :
    AreNames (indicator.statistics.map Prod.fst) := by
  have names : indicator.statistics.map Prod.fst =
      "count" :: ((indicator.conditions.map ConditionCount.label).map ("count_" ++ ·) ++ ["error"]) := by
    simp [statistics, Function.comp_def]
  have counted : ((indicator.conditions.map ConditionCount.label).map ("count_" ++ ·)).Nodup :=
    nodup.map fun _ _ => (String.append_right_inj _).mp
  rw [names]
  constructor
  · have apart : ∀ plain ∈ ["count", "error"],
        plain ∉ (indicator.conditions.map ConditionCount.label).map ("count_" ++ ·) := by
      intro plain known member
      obtain ⟨label, _, same⟩ := List.mem_map.mp member
      have letter := congrArg (fun text => text.toList[5]?) same
      simp only [List.mem_cons, List.not_mem_nil, or_false] at known
      rcases known with rfl | rfl
      · simp at letter
      · simp at letter
    have error := apart "error" (by simp)
    have count := apart "count" (by simp)
    rw [List.nodup_cons, List.mem_append, List.nodup_append]
    refine ⟨?_, counted, by decide, ?_⟩
    · rintro (member | member)
      · exact count member
      · exact absurd member (by decide)
    · rintro left member right last rfl
      obtain rfl := List.mem_singleton.mp last
      exact error member
  · intro name member
    simp only [List.mem_cons, List.mem_append, List.mem_map, List.not_mem_nil, or_false] at member
    rcases member with rfl | ⟨label, given, rfl⟩ | rfl
    · decide
    · exact .append (by decide) (isUndotted_of_isWord (words label (List.mem_map.mpr given)))
    · decide

end Others

end MetricAggregation
