import MetricAggregation.Proofs.Engine.Enumeration
import MetricAggregation.Proofs.TimerIntake

/-!
Engines that look alike to a flush: they may have different timers, random draws and meters, and yet the part
of a flush that is about the interval since the last one is the same.
-/

namespace MetricAggregation

/-- Whether a statistic is about the interval since the last flush. The rate of a timer may go further back,
and meters and the metrics of distinct items go on for ever. -/
def Origin.ofInterval (origin : Origin) : Bool :=
  match origin.kind with
  | .counter => true
  | .timer => origin.statistic ≠ "rate"
  | .gauge => true
  | .meter => false
  | .extension tag => tag = "sli"

/-- A path under which the engine reports how long some of its own work took. -/
def IsTime (path : String) : Prop := ".duration".toList <:+ path.toList

instance : DecidablePred IsTime := fun path => inferInstanceAs (Decidable (".duration".toList <:+ path.toList))

/-- Whether a datapoint is about the interval since the last flush. Of what an engine reports of its own
work, this leaves out the durations. -/
def Attributed.ofInterval {α : Type} (entry : Attributed α) : Bool :=
  match entry.origin with
  | some origin => origin.ofInterval
  | none => ¬IsTime entry.point.path

section Perm

variable {α : Type} {settings : Settings} {timestamp : Nat}

/-- The datapoint of a statistic with a value. -/
def Attributed.at (settings : Settings) (timestamp : Nat) (origin : Origin) (value : α) : Attributed α :=
  ⟨some origin, origin.path settings, value, timestamp⟩

theorem filter_origin_eq {points : List (Attributed α)}
    (known : ∀ entry ∈ points, ∃ origin value, entry = .at settings timestamp origin value) (origin : Origin) :
    (points.filter fun entry => entry.origin = some origin) =
      (reportedOf origin points).map (.at settings timestamp origin) := by
  rw [reportedOf, List.map_map]
  refine (List.map_id _).symm.trans (List.map_congr_left ?_)
  intro entry member
  obtain ⟨inPoints, own⟩ := List.mem_filter.mp member
  obtain ⟨other, value, rfl⟩ := known entry inPoints
  obtain rfl := Option.some.inj (of_decide_eq_true own)
  rfl

/-- The values that are reported for every statistic tell what datapoints there are. -/
theorem perm_of_reportedOf {left right : List (Attributed α)}
    (leftKnown : ∀ entry ∈ left, ∃ origin value, entry = .at settings timestamp origin value)
    (rightKnown : ∀ entry ∈ right, ∃ origin value, entry = .at settings timestamp origin value)
    (same : ∀ origin, reportedOf origin left = reportedOf origin right) : left.Perm right := by
  classical
  rw [List.perm_iff_count]
  intro entry
  cases own : entry.origin with
  | none =>
      have absent {points : List (Attributed α)}
          (known : ∀ entry ∈ points, ∃ origin value, entry = .at settings timestamp origin value) :
          entry ∉ points := by
        intro member
        obtain ⟨origin, value, rfl⟩ := known entry member
        cases own
      rw [List.count_eq_zero.mpr (absent leftKnown), List.count_eq_zero.mpr (absent rightKnown)]
  | some origin =>
      have chosen (points : List (Attributed α)) :
          points.count entry = (points.filter fun entry => entry.origin = some origin).count entry :=
        (List.count_filter (by simpa using own)).symm
      rw [chosen left, chosen right, filter_origin_eq leftKnown, filter_origin_eq rightKnown, same]

theorem map_path_eq_of_perm {left right : List (Attributed α)}
    (leftSorted : left.Pairwise fun one other => one.point.path ≤ other.point.path)
    (rightSorted : right.Pairwise fun one other => one.point.path ≤ other.point.path)
    (same : left.Perm right) :
    left.map (fun entry => entry.point.path) = right.map fun entry => entry.point.path := by
  refine List.Perm.eq_of_pairwise (fun _ _ _ _ => String.le_antisymm) ?_ ?_ (same.map _)
  · exact List.pairwise_map.mpr leftSorted
  · exact List.pairwise_map.mpr rightSorted

theorem reportedOf_filter_ofInterval (points : List (Attributed α)) (origin : Origin) :
    reportedOf origin (points.filter Attributed.ofInterval) =
      if origin.ofInterval then reportedOf origin points else [] := by
  have own {entry : Attributed α} (same : entry.origin = some origin) :
      entry.ofInterval = origin.ofInterval := by
    simp [Attributed.ofInterval, same]
  split
  · rename_i kept
    rw [reportedOf, List.filter_filter, reportedOf]
    apply congrArg
    apply List.filter_congr
    intro entry _
    by_cases same : entry.origin = some origin
    · simp [same, own same, kept]
    · simp [same]
  · rename_i dropped
    apply reportedOf_eq_nil
    intro entry member same
    exact dropped ((own same).symm.trans (List.mem_filter.mp member).2)

end Perm

theorem length_eq_of_mem_iff {β : Type} {left right : List β} (leftNodup : left.Nodup)
    (rightNodup : right.Nodup) (same : ∀ entry, entry ∈ left ↔ entry ∈ right) :
    left.length = right.length :=
  ((List.perm_ext_iff_of_nodup leftNodup rightNodup).mpr same).length_eq

namespace Engine

section Summary

variable {α φ μ : Type} [Number α]

theorem filter_tallyPoints (path : String) (tally : Tally) (timestamp : Nat) :
    (tallyPoints (α := α) path tally timestamp).filter
        (fun point => ¬IsTime point.path) =
      [⟨path ++ ".count", (tally.count : α), timestamp⟩] := by
  have count : ¬IsTime (path ++ ".count") := by
    intro suffix
    have last := suffix.getLast (by decide)
    simp at last
  have duration : IsTime (path ++ ".duration") := by
    rw [IsTime, String.toList_append]
    exact List.suffix_append _ _
  rw [tallyPoints, List.filter_cons_of_pos (by simpa using count), List.filter_cons_of_neg (by simpa using duration),
    List.filter_nil]

omit [Number α] in
theorem sorted_counts (stats : ReceiveStats) :
    (stats.sorted.map fun entry => (entry.1, entry.2.count)) =
      (stats.byTag.map Tally.count).entries.mergeSort fun left right => decide (left.1 ≤ right.1) :=
  List.map_mergeSort (f := fun entry : String × Tally => (entry.1, entry.2.count)) fun _ _ _ _ => rfl

/-- The summary of a flush without the durations. -/
theorem filter_summary {engine : Engine α φ μ} (chosen : engine.settings = .default) (stats : FlushStats)
    (timestamp : Nat) :
    (engine.summary stats timestamp).filter (fun point => ¬IsTime point.path) =
      ⟨"statsd.numStats", (((FlushKind.all.map fun kind => (stats.tally kind).count).sum : Nat) : α), timestamp⟩ ::
        (FlushKind.all.map fun kind =>
          ⟨joinPath "statsd" ("flush." ++ kind.name) ++ ".count", ((stats.tally kind).count : α), timestamp⟩) ++
        (engine.received.sorted.map fun entry => (entry.1, entry.2.count)).map fun entry =>
          ⟨joinPath "statsd" ("receive." ++ entry.1) ++ ".count", (entry.2 : α), timestamp⟩ := by
  have stem : engine.settings.internalStem = "statsd" := congrArg Settings.internalStem chosen
  have number : joinPath "statsd" "numStats" = "statsd.numStats" := by decide
  have kept : ¬IsTime "statsd.numStats" := by decide
  rw [summary, stem, number, total_eq, List.cons_append, List.filter_cons_of_pos (by simpa using kept),
    List.filter_append, List.filter_flatMap, List.filter_flatMap, List.map_map, List.cons_append]
  simp only [filter_tallyPoints, ← List.map_eq_flatMap, Function.comp_def]

end Summary

/-- What the timer of a key has taken in since it was cleared; nothing if there is no timer. -/
def intake {α φ μ : Type} [Number α] (engine : Engine α φ μ) (key : String) : Intake α :=
  ((engine.timers.find? key).map Timer.intake).getD .zero

def ClearingTimers {α φ μ : Type} [Number α] (engine : Engine α φ μ) : Prop :=
  ∀ key timer, engine.timers.find? key = some timer → timer.Clearing

section Standard

variable {α : Type} [Number α]

/-- Two engines look alike to a flush. -/
structure Alike (left right : Engine α (StandardFactory α) (StandardMetric α)) : Prop where
  settings : left.settings = .default ∧ right.settings = .default
  plugins : left.plugins = right.plugins
  wallClock : left.wallClock = right.wallClock
  counters (key : String) : left.counters.find? key = right.counters.find? key
  timers (key : String) : left.intake key = right.intake key
  gauges : left.gauges = right.gauges
  meters (key : String) : left.Has .meter key ↔ right.Has .meter key
  further (tag key : String) : left.Has (.extension tag) key ↔ right.Has (.extension tag) key
  indicators (key : String) : left.extension? "sli" key = right.extension? "sli" key
  received (tag : String) : left.receivedCount tag = right.receivedCount tag
  clearing : left.ClearingTimers ∧ right.ClearingTimers
  /-- No timer has taken in more than its sample holds. -/
  few (key : String) : (left.intake key).count ≤ Reservoir.defaultSize

variable {engine left right : Engine α (StandardFactory α) (StandardMetric α)}

theorem ClearingTimers.idle (clearing : engine.ClearingTimers) {key : String}
    (unused : (engine.intake key).count = 0) :
    ((engine.timers.find? key).filter fun timer => !timer.isIdle) = none := by
  unfold intake at unused
  cases found : engine.timers.find? key with
  | none => rfl
  | some timer =>
      rw [found] at unused
      simp [Option.filter, (clearing key timer found).isIdle_iff.mpr unused]

theorem ClearingTimers.busy (clearing : engine.ClearingTimers) {key : String}
    (used : (engine.intake key).count ≠ 0) :
    ∃ timer, engine.timers.find? key = some timer ∧ timer.isIdle = false ∧ timer.Clearing ∧
      timer.intake = engine.intake key := by
  unfold intake at used ⊢
  cases found : engine.timers.find? key with
  | none =>
      rw [found] at used
      exact absurd rfl used
  | some timer =>
      rw [found] at used
      have clears := clearing key timer found
      exact ⟨timer, rfl, Bool.not_eq_true _ ▸ mt clears.isIdle_iff.mp used, clears, rfl⟩

theorem mem_keys_activeTimers_iff (clearing : engine.ClearingTimers) {key : String} :
    key ∈ engine.activeTimers.map Prod.fst ↔ (engine.intake key).count ≠ 0 := by
  simp only [activeTimers, List.mem_map, List.mem_filter, Prod.exists, Table.mem_entries_iff]
  constructor
  · rintro ⟨name, timer, ⟨found, busy⟩, rfl⟩ unused
    have idle := clearing.idle unused
    rw [found, Option.filter_some, if_pos busy] at idle
    cases idle
  · intro used
    obtain ⟨timer, found, busy, _⟩ := clearing.busy used
    exact ⟨key, timer, ⟨found, by simpa using busy⟩, rfl⟩

omit [Number α] in
theorem nodup_keys_activeTimers (engine : Engine α (StandardFactory α) (StandardMetric α)) :
    (engine.activeTimers.map Prod.fst).Nodup :=
  engine.timers.keysNodup.sublist (List.filter_sublist.map Prod.fst)

omit [Number α] in
theorem nodup_keys_furtherMetrics (engine : Engine α (StandardFactory α) (StandardMetric α)) :
    (engine.furtherMetrics.map fun entry => (entry.1, entry.2.1)).Nodup := by
  refine engine.nodup_furtherMetrics.map_on ?_
  rintro ⟨tag, key, metric⟩ member ⟨otherTag, otherKey, other⟩ otherMember same
  cases same
  rw [mem_furtherMetrics_iff] at member otherMember
  rw [Option.some.inj (member.symm.trans otherMember)]

omit [Number α] in
theorem mem_keys_furtherMetrics_iff {tag key : String} :
    (tag, key) ∈ engine.furtherMetrics.map (fun entry => (entry.1, entry.2.1)) ↔
      engine.Has (.extension tag) key := by
  change _ ↔ (engine.extension? tag key).isSome
  simp [List.mem_map, mem_furtherMetrics_iff, Option.isSome_iff_exists]

namespace Alike

/-- As many metrics of a kind report, or values of gauges. -/
theorem reportingCount (alike : Alike left right) (kind : FlushKind) :
    left.reportingCount kind = right.reportingCount kind := by
  have keys {β : Type} {one other : Table β}
      (same : ∀ name, (one.find? name).isSome ↔ (other.find? name).isSome) :
      one.entries.length = other.entries.length := by
    have names := length_eq_of_mem_iff one.keysNodup other.keysNodup fun name =>
      (Table.mem_keys_iff.trans (same name)).trans Table.mem_keys_iff.symm
    simpa using names
  cases kind with
  | counter => exact keys fun name => by rw [alike.counters]
  | timer =>
      have busy := length_eq_of_mem_iff left.nodup_keys_activeTimers right.nodup_keys_activeTimers fun key => by
        rw [mem_keys_activeTimers_iff alike.clearing.1, mem_keys_activeTimers_iff alike.clearing.2, alike.timers]
      simpa [Engine.reportingCount] using busy
  | gauge => simp only [Engine.reportingCount, alike.gauges]
  | meter => exact keys alike.meters
  | plugin =>
      have further := length_eq_of_mem_iff left.nodup_keys_furtherMetrics right.nodup_keys_furtherMetrics
        fun entry => (mem_keys_furtherMetrics_iff.trans (alike.further _ _)).trans
          mem_keys_furtherMetrics_iff.symm
      simpa [Engine.reportingCount] using further

theorem filter_summary (alike : Alike left right) (interval : Duration) (percent : Nat) :
    (left.summary (left.flushStats interval percent) (Number.floorNat left.wallClock)).filter
        (fun point => ¬IsTime point.path) =
      (right.summary (right.flushStats interval percent) (Number.floorNat right.wallClock)).filter
        fun point => ¬IsTime point.path := by
  have flushed (kind : FlushKind) : ((left.flushStats interval percent).tally kind).count =
      ((right.flushStats interval percent).tally kind).count := by
    rw [flushStats, flushStats, count_tally_ofSegments, count_tally_ofSegments, alike.reportingCount]
  have counts : (left.received.byTag.map Tally.count).entries.Perm
      (right.received.byTag.map Tally.count).entries := by
    rw [Table.perm_entries_iff]
    intro tag
    rw [Table.find?_map, Table.find?_map]
    exact alike.received tag
  have sorted := mergeSort_eq_of_perm Prod.fst counts (Table.keysNodup _)
  rw [Engine.filter_summary alike.settings.1, Engine.filter_summary alike.settings.2, sorted_counts,
    sorted_counts, sorted, alike.wallClock]
  simp only [flushed]

theorem reportedOf (alike : Alike left right) (interval : Duration) (percent : Nat) {origin : Origin}
    (kept : origin.ofInterval) :
    MetricAggregation.reportedOf origin (left.attributedFlush interval percent) =
      MetricAggregation.reportedOf origin (right.attributedFlush interval percent) := by
  obtain ⟨kind, key, statistic⟩ := origin
  cases kind with
  | counter => rw [reportedOf_counter_statistic, reportedOf_counter_statistic, alike.counters]
  | timer =>
      have named : statistic ≠ "rate" := of_decide_eq_true kept
      rw [reportedOf_timer, reportedOf_timer, alike.wallClock]
      by_cases unused : (left.intake key).count = 0
      · rw [alike.clearing.1.idle unused, alike.clearing.2.idle (alike.timers key ▸ unused)]
      · have used : (right.intake key).count ≠ 0 := alike.timers key ▸ unused
        obtain ⟨one, oneFound, oneBusy, clearing, oneIntake⟩ := alike.clearing.1.busy unused
        obtain ⟨other, otherFound, otherBusy, _, otherIntake⟩ := alike.clearing.2.busy used
        have same : one.intake = other.intake := oneIntake.trans ((alike.timers key).trans otherIntake.symm)
        have few : one.count ≤ Reservoir.defaultSize := (congrArg Intake.count oneIntake).trans_le (alike.few key)
        simp only [oneFound, otherFound, oneBusy, otherBusy, Option.filter_some, Bool.not_false, if_true,
          Option.toList_some, List.flatMap_singleton, clearing.statistics_eq same few percent _ named]
  | gauge =>
      rw [reportedOf_attributedFlush, reportedOf_attributedFlush]
      simp only [gaugePoints, alike.gauges, alike.settings.1, alike.settings.2, alike.wallClock]
  | meter => cases kept
  | extension tag =>
      obtain rfl : tag = "sli" := of_decide_eq_true kept
      rw [reportedOf_extension, reportedOf_extension, alike.indicators]
      simp only [flushExtension, factoryName, alike.plugins, alike.settings.1, alike.settings.2, alike.wallClock]

end Alike

/-- What is reported of the metrics of a kind is known by the origins and the values. -/
theorem known_kindPoints (chosen : engine.settings = .default) (interval : Duration) (percent : Nat)
    {kind : FlushKind} {entry : Attributed α}
    (member : entry ∈ engine.kindPoints (interval.seconds α) percent (Number.floorNat engine.wallClock) kind) :
    ∃ origin value, FlushKind.ofMetric origin.kind = kind ∧
      entry = .at .default (Number.floorNat engine.wallClock) origin value := by
  have reported := mem_attributedFlush (mem_metricPoints member)
  have timestamp : entry.point.timestamp = Number.floorNat engine.wallClock := by
    apply engine.timestamp_flush percent interval
    rw [← map_point_attributedFlush]
    exact List.mem_map.mpr ⟨entry, reported, rfl⟩
  obtain ⟨origin, own, ofKind⟩ : ∃ origin, entry.origin = some origin ∧ FlushKind.ofMetric origin.kind = kind := by
    cases kind with
    | counter =>
        simp only [kindPoints, counterPoints, mem_sortAttributed, List.mem_flatMap, List.mem_cons,
          List.not_mem_nil, or_false] at member
        obtain ⟨_, _, rfl | rfl⟩ := member
        · exact ⟨_, rfl, rfl⟩
        · exact ⟨_, rfl, rfl⟩
    | timer =>
        simp only [kindPoints, timerPoints, attributedStatistics, mem_sortAttributed, List.mem_flatMap,
          List.mem_map] at member
        obtain ⟨_, _, _, _, rfl⟩ := member
        exact ⟨_, rfl, rfl⟩
    | gauge =>
        simp only [kindPoints, gaugePoints, mem_sortAttributed, List.mem_map] at member
        obtain ⟨_, _, rfl⟩ := member
        exact ⟨_, rfl, rfl⟩
    | meter =>
        simp only [kindPoints, meterPoints, attributedStatistics, mem_sortAttributed, List.mem_flatMap,
          List.mem_map] at member
        obtain ⟨_, _, _, _, rfl⟩ := member
        exact ⟨_, rfl, rfl⟩
    | plugin =>
        obtain ⟨_, _, _, _, _, _, rfl⟩ := mem_extensionPoints_iff.mp member
        exact ⟨_, rfl, rfl⟩
  have path := engine.placed_attributedFlush interval percent entry reported origin own
  rw [chosen] at path
  refine ⟨origin, entry.point.value, ofKind, ?_⟩
  obtain ⟨_, _, _, _⟩ := entry
  cases own
  cases path
  cases timestamp
  rfl

theorem sorted_kindPoints (engine : Engine α (StandardFactory α) (StandardMetric α)) (seconds : α)
    (percent timestamp : Nat) (kind : FlushKind) :
    (engine.kindPoints seconds percent timestamp kind).Pairwise fun left right =>
      left.point.path ≤ right.point.path := by
  cases kind <;> exact pairwise_mergeSort_le (fun entry : Attributed α => entry.point.path) _

theorem reportedOf_kindPoints (engine : Engine α (StandardFactory α) (StandardMetric α)) (interval : Duration)
    (percent : Nat) (origin : Origin) :
    reportedOf origin (engine.kindPoints (interval.seconds α) percent (Number.floorNat engine.wallClock)
      (.ofMetric origin.kind)) = reportedOf origin (engine.attributedFlush interval percent) := by
  rw [reportedOf_attributedFlush]
  cases origin.kind <;> rfl

theorem reportedOf_kindPoints_other (chosen : engine.settings = .default) (interval : Duration)
    (percent : Nat) {kind : FlushKind} {origin : Origin} (other : FlushKind.ofMetric origin.kind ≠ kind) :
    reportedOf origin (engine.kindPoints (interval.seconds α) percent (Number.floorNat engine.wallClock) kind) =
      [] := by
  apply reportedOf_eq_nil
  intro entry member own
  obtain ⟨_, _, ofKind, rfl⟩ := known_kindPoints chosen interval percent member
  obtain rfl := Option.some.inj own
  exact other ofKind

namespace Alike

theorem kindPoints_perm (alike : Alike left right) (interval : Duration) (percent : Nat) (kind : FlushKind) :
    ((left.kindPoints (interval.seconds α) percent (Number.floorNat left.wallClock) kind).filter
        Attributed.ofInterval).Perm
      ((right.kindPoints (interval.seconds α) percent (Number.floorNat right.wallClock) kind).filter
        Attributed.ofInterval) := by
  have known {engine : Engine α (StandardFactory α) (StandardMetric α)} (chosen : engine.settings = .default)
      {entry : Attributed α} (member : entry ∈ (engine.kindPoints (interval.seconds α) percent
        (Number.floorNat engine.wallClock) kind).filter Attributed.ofInterval) :
      ∃ origin value, entry = .at .default (Number.floorNat engine.wallClock) origin value := by
    obtain ⟨origin, value, _, same⟩ :=
      known_kindPoints chosen interval percent (List.mem_filter.mp member).1
    exact ⟨origin, value, same⟩
  apply perm_of_reportedOf fun _ => known alike.settings.1
  · rw [alike.wallClock]
    exact fun _ => known alike.settings.2
  · intro origin
    rw [reportedOf_filter_ofInterval, reportedOf_filter_ofInterval]
    split
    · rename_i kept
      by_cases own : FlushKind.ofMetric origin.kind = kind
      · subst own
        rw [reportedOf_kindPoints, reportedOf_kindPoints]
        exact alike.reportedOf interval percent kept
      · rw [reportedOf_kindPoints_other alike.settings.1 interval percent own,
          reportedOf_kindPoints_other alike.settings.2 interval percent own]
    · rfl

/-- The part of a flush that is about the interval has the same datapoints, and their paths in the same
order. -/
theorem flush (alike : Alike left right) (interval : Duration) (percent : Nat) :
    let ofInterval (engine : Engine α (StandardFactory α) (StandardMetric α)) :=
      (engine.attributedFlush interval percent).filter Attributed.ofInterval
    (ofInterval left).Perm (ofInterval right) ∧
      (ofInterval left).map (fun entry => entry.point.path) =
        (ofInterval right).map fun entry => entry.point.path := by
  intro ofInterval
  have parts (engine : Engine α (StandardFactory α) (StandardMetric α)) : ofInterval engine =
      (FlushKind.all.flatMap fun kind => (engine.kindPoints (interval.seconds α) percent
          (Number.floorNat engine.wallClock) kind).filter Attributed.ofInterval) ++
        ((engine.summary (engine.flushStats interval percent) (Number.floorNat engine.wallClock)).filter
          fun point => ¬IsTime point.path).map fun point => ⟨none, point⟩ := by
    simp only [ofInterval, attributedFlush_eq, metricPoints, List.filter_append, List.filter_flatMap,
      List.filter_map]
    rfl
  rw [parts, parts, alike.filter_summary]
  constructor
  · refine .append ?_ (.refl _)
    exact List.Perm.flatMap_left _ fun kind _ => alike.kindPoints_perm interval percent kind
  · rw [List.map_append, List.map_append, List.map_flatMap, List.map_flatMap]
    refine congrArg (· ++ _) (List.flatMap_congr ?_)
    intro kind _
    apply map_path_eq_of_perm
    · exact (left.sorted_kindPoints _ percent _ kind).filter _
    · exact (right.sorted_kindPoints _ percent _ kind).filter _
    · exact alike.kindPoints_perm interval percent kind

end Alike

end Standard

end Engine

end MetricAggregation
