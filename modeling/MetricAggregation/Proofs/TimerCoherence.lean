import MetricAggregation.Proofs.Recording
import MetricAggregation.Proofs.StatisticNames

/-!
The statistics that a timer reports fit together: the scores of its quantiles grow with the quantiles, and they and
the mean lie between the least duration and the greatest.
-/

namespace MetricAggregation

/-- What happens to a timer, with the reading of the wall clock: a duration for it, or a flush with a timestamp. -/
inductive TimerStep (α : Type) where
  | update (duration now : α)
  | flush (timestamp : Nat) (now : α)

def valuesUnder {α : Type} (points : List (Datapoint α)) (path name : String) : List α :=
  (points.filter fun point => point.path = joinPath path name).map Datapoint.value

namespace Timer

def step {α : Type} [Number α] (timer : Timer α) : TimerStep α → Timer α
  | .update duration now => timer.update duration now
  | .flush timestamp now => timer.flushed timestamp now

section Listed

variable {α : Type} [Number α]

theorem valuesUnder_report (timer : Timer α) (path : String) {percent timestamp : Nat} {name : String} {value : α}
    (stated : (name, value) ∈ timer.statistics percent (timestamp : α)) :
    valuesUnder (timer.report path percent timestamp) path name = [Number.roundToMicro value] := by
  have nodup : ((timer.statistics percent (timestamp : α)).map Prod.fst).Nodup := by
    rw [map_fst_statistics]
    exact (areNames percent).nodup
  rw [valuesUnder, filter_report, filter_eq_singleton_of_nodup nodup stated]
  rfl

theorem valuesUnder_aggregates (timer : Timer α) (path : String) (percent timestamp : Nat) :
    let points := timer.report path percent timestamp
    valuesUnder points path "min" = [Number.roundToMicro timer.histogram.least] ∧
      valuesUnder points path "mean" = [Number.roundToMicro timer.histogram.mean] ∧
      valuesUnder points path "max" = [Number.roundToMicro timer.histogram.greatest] := by
  have stated : ∀ {name : String} {value : α}, (name, value) ∈ [("max", timer.histogram.greatest),
      ("mean", timer.histogram.mean), ("min", timer.histogram.least)] →
        (name, value) ∈ timer.statistics percent (timestamp : α) := by
    intro name value listed
    refine List.mem_append_left _ ?_
    simp only [List.mem_cons, List.not_mem_nil, or_false] at listed ⊢
    tauto
  exact ⟨timer.valuesUnder_report path (stated (by simp)), timer.valuesUnder_report path (stated (by simp)),
    timer.valuesUnder_report path (stated (by simp))⟩

end Listed

variable {α : Type} [ExactNumber α]

theorem records_new (policy : ReservoirPolicy) (start : α) (draws : Nat → Draw α) :
    (new policy start draws).histogram.Records [] := by
  cases policy with
  | resetOnFlush => exact Histogram.records_ofReservoir (Sample.keeps_chosen .resetOnFlush _ start start)
  | continuous => exact Histogram.records_ofReservoir (Sample.keeps_chosen .continuous _ _ start)

theorem records_step {timer : Timer α} {recorded : List α} (records : timer.histogram.Records recorded)
    (use : TimerStep α) : ∃ after, (timer.step use).histogram.Records after := by
  cases use with
  | update duration now =>
      change ∃ after, (timer.update duration now).histogram.Records after
      unfold update
      split
      · exact ⟨recorded ++ [duration], records.update duration now⟩
      · exact ⟨recorded, records⟩
  | flush timestamp now =>
      change ∃ after, (timer.flushed timestamp now).histogram.Records after
      unfold flushed
      dsimp only
      split
      · exact ⟨[], records.clear now⟩
      · exact ⟨recorded, records⟩

theorem records_run (steps : List (TimerStep α)) : ∀ {timer : Timer α} {recorded : List α},
    timer.histogram.Records recorded → ∃ after, (steps.foldl step timer).histogram.Records after := by
  induction steps with
  | nil => exact fun records => ⟨_, records⟩
  | cons use rest ih =>
      intro timer recorded records
      obtain ⟨after, stepped⟩ := records_step records use
      exact ih stepped

theorem map_quantiles (percent : Nat) :
    (upperQuantile percent :: quantiles : List (Quantile α)).map (fun quantile => (quantile.label, quantile.value)) =
      [("upper_" ++ toString percent, (percent : α) / 100), ("median", 1 / 2), ("75percentile", 3 / 4),
        ("95percentile", 19 / 20), ("98percentile", 49 / 50), ("99percentile", 99 / 100),
        ("999percentile", 999 / 1000)] := by
  simp only [quantiles, upperQuantile, ExactNumber.ofDecimal_eq]
  norm_num

-- Of doubles, each of these quantiles has the label that is made from its value.
example :
    let asked : List (Quantile Double) := [0.5, 0.75, 0.95, 0.98, 0.99, 0.999].map Quantile.ofNumber
    let quantiles : List (Quantile Double) := quantiles
    quantiles.map Quantile.value = asked.map Quantile.value ∧
      quantiles.map Quantile.label = asked.map Quantile.label :=
  ⟨rfl, by decide +kernel⟩

variable {timer : Timer α} {recorded : List α}

theorem valuesUnder_quantile (records : timer.histogram.Records recorded) (path : String) {percent : Nat}
    (timestamp : Nat) {quantile : Quantile α} (asked : quantile ∈ upperQuantile percent :: quantiles) :
    valuesUnder (timer.report path percent timestamp) path quantile.label =
      [Number.roundToMicro (timer.histogram.scoreOf quantile.value)] := by
  refine timer.valuesUnder_report path (List.mem_append_right _ ?_)
  rw [records.percentiles_eq, List.map_map, List.zip_map']
  exact List.mem_map.mpr ⟨quantile, asked, rfl⟩

/-- A timer reports coherent statistics, whatever durations and flushes there were before, whatever was drawn for its
sample, and whether flushes clear it or not. Each statistic is reported once, that of a quantile is the score of this
quantile among the durations that the sample kept, and their order is that of what they are called. -/
theorem report_coherent (policy : ReservoirPolicy) (start : α) (draws : Nat → Draw α) (steps : List (TimerStep α))
    (path : String) (percent timestamp : Nat) :
    let timer := steps.foldl step (new policy start draws)
    let points := timer.report path percent timestamp
    let reported (name : String) : α := (valuesUnder points path name).headD 0
    let upper := "upper_" ++ toString percent
    let quantiles : List (String × α) :=
      [(upper, percent / 100), ("median", 1 / 2), ("75percentile", 3 / 4), ("95percentile", 19 / 20),
        ("98percentile", 49 / 50), ("99percentile", 99 / 100), ("999percentile", 999 / 1000)]
    (∀ name ∈ "min" :: "mean" :: "max" :: quantiles.map Prod.fst, valuesUnder points path name = [reported name]) ∧
    (∀ quantile ∈ quantiles, reported quantile.1 = Number.roundToMicro (timer.histogram.scoreOf quantile.2)) ∧
    (["min", "median", "75percentile", "95percentile", "98percentile", "99percentile", "999percentile",
      "max"].map reported).Pairwise (· ≤ ·) ∧
    (["min", upper, "max"].map reported).Pairwise (· ≤ ·) ∧
    (["min", "mean", "max"].map reported).Pairwise (· ≤ ·) := by
  intro timer points reported upper named
  obtain ⟨recorded, records⟩ : ∃ recorded, timer.histogram.Records recorded :=
    records_run steps (records_new policy start draws)
  obtain ⟨minimum, average, maximum⟩ := timer.valuesUnder_aggregates path percent timestamp
  have told : ∀ {name : String} {value : α}, valuesUnder points path name = [value] → reported name = value := by
    intro name value only
    simp only [reported, only, List.headD_cons]
  have least := told minimum
  have mean := told average
  have greatest := told maximum
  have only : ∀ quantile ∈ named,
      valuesUnder points path quantile.1 = [Number.roundToMicro (timer.histogram.scoreOf quantile.2)] := by
    intro quantile listed
    rw [show named = _ from (map_quantiles percent).symm] at listed
    obtain ⟨asked, member, rfl⟩ := List.mem_map.mp listed
    exact valuesUnder_quantile records path timestamp member
  have scored := fun quantile listed => told (only quantile listed)
  have rounded : ∀ {values : List α}, values.Pairwise (· ≤ ·) →
      (values.map Number.roundToMicro).Pairwise (· ≤ ·) := fun ascending =>
    ascending.map _ fun _ _ le => ExactNumber.roundToMicro_mono le
  refine ⟨?_, scored, ?_, ?_, ?_⟩
  · intro name stated
    simp only [List.mem_cons, List.mem_map] at stated
    rcases stated with rfl | rfl | rfl | ⟨quantile, listed, rfl⟩
    · rw [least, minimum]
    · rw [mean, average]
    · rw [greatest, maximum]
    · rw [scored quantile listed, only quantile listed]
  · have ascending : ([1 / 2, 3 / 4, 19 / 20, 49 / 50, 99 / 100, 999 / 1000] : List α).Pairwise (· ≤ ·) := by
      norm_num
    have ordered := rounded (records.pairwise_scores ascending)
    simp only [named, List.forall_mem_cons] at scored
    obtain ⟨_, median, first, second, third, fourth, fifth, _⟩ := scored
    simpa only [List.map_cons, List.map_nil, List.cons_append, List.nil_append, least, greatest, median, first,
      second, third, fourth, fifth] using ordered
  · have ordered := rounded (records.pairwise_scores (List.pairwise_singleton (· ≤ ·) ((percent : α) / 100)))
    have score := scored (upper, percent / 100) List.mem_cons_self
    simpa only [List.map_cons, List.map_nil, List.cons_append, List.nil_append, least, greatest, score] using ordered
  · have between := records.mean_mem
    have ascending :
        [timer.histogram.least, timer.histogram.mean, timer.histogram.greatest].Pairwise (· ≤ ·) := by
      simp [between, between.1.trans between.2]
    have ordered := rounded ascending
    simpa only [List.map_cons, List.map_nil, least, greatest, mean] using ordered

end Timer

end MetricAggregation
