import MetricAggregation.Proofs.Areas
import MetricAggregation.Proofs.Engine.Indicators
import MetricAggregation.Proofs.Engine.Layout
import MetricAggregation.Proofs.StatisticNames

/-!
What the metrics of each kind report in a flush, by their origins: under their keys and the names of their
statistics, and no statistic twice.
-/

namespace MetricAggregation

section Origins

variable {α : Type}

/-- Only gauges report several values for one statistic. -/
def OnceEach (points : List (Attributed α)) : Prop :=
  ∀ origin, origin.kind ≠ .gauge → (reportedOf origin points).length ≤ 1

theorem OnceEach.pairwise {points : List (Attributed α)} (once : OnceEach points) :
    points.Pairwise fun left right =>
      ∀ origin, left.origin = some origin → right.origin = some origin → origin.kind = .gauge := by
  induction points with
  | nil => exact .nil
  | cons first rest ih =>
      have fewer (origin : Origin) :
          (reportedOf origin rest).length ≤ (reportedOf origin (first :: rest)).length := by
        rw [reportedOf, reportedOf, List.length_map, List.length_map]
        exact ((List.sublist_cons_self first rest).filter _).length_le
      refine .cons ?_ (ih fun origin other => (fewer origin).trans (once origin other))
      intro later member origin own same
      by_contra other
      have found : later ∈ rest.filter fun entry => entry.origin = some origin :=
        List.mem_filter.mpr ⟨member, by simpa using same⟩
      have twice := once origin other
      rw [reportedOf, List.filter_cons_of_pos (by simpa using own), List.map_cons, List.length_cons,
        List.length_map] at twice
      have some := List.length_pos_of_mem found
      omega

theorem exists_attributedStatistics [Number α] (kind : MetricKind) (key path : String) (timestamp : Nat)
    {statistics : List (String × α)} {name : String} (named : name ∈ statistics.map Prod.fst) :
    ∃ entry ∈ attributedStatistics kind key path timestamp statistics,
      entry.origin = some ⟨kind, key, name⟩ := by
  obtain ⟨statistic, given, rfl⟩ := List.mem_map.mp named
  exact ⟨_, List.mem_map.mpr ⟨statistic, given, rfl⟩, rfl⟩

end Origins

/-- The part of a flush in which the metrics of a kind are reported. -/
def FlushKind.ofMetric : MetricKind → FlushKind
  | .counter => .counter
  | .timer => .timer
  | .gauge => .gauge
  | .meter => .meter
  | .extension _ => .plugin

theorem FlushKind.ofMetric_eq_counter_iff {kind : MetricKind} : ofMetric kind = .counter ↔ kind = .counter := by
  cases kind <;> simp [ofMetric]

namespace Engine

section Standard

variable {α : Type} [Number α] {policy : ReservoirPolicy} {rules : List (Rule α)}
variable {engine : Engine α (StandardFactory α) (StandardMetric α)}

/-- The labels of the rules are words, as they are in rules that have been read. -/
def LabelsWords (rules : List (Rule α)) : Prop := ∀ rule ∈ rules, ∀ char ∈ rule.label.toList, Text.isWord char

/-- What a flush reports of the metrics of a kind. -/
def kindPoints (engine : Engine α (StandardFactory α) (StandardMetric α)) (seconds : α)
    (percent timestamp : Nat) : FlushKind → List (Attributed α)
  | .counter => engine.counterPoints seconds timestamp
  | .timer => engine.timerPoints percent timestamp
  | .gauge => engine.gaugePoints timestamp
  | .meter => engine.meterPoints timestamp
  | .plugin => extensionPoints (engine.flushExtensions seconds timestamp)

theorem map_point_kindPoints (engine : Engine α (StandardFactory α) (StandardMetric α)) (seconds : α)
    (percent timestamp : Nat) (kind : FlushKind) :
    (engine.kindPoints seconds percent timestamp kind).map Attributed.point =
      (engine.segmentOf seconds percent timestamp kind).points := by
  cases kind with
  | counter => exact engine.map_point_counterPoints seconds timestamp
  | timer => exact engine.map_point_timerPoints percent timestamp
  | gauge => exact engine.map_point_gaugePoints timestamp
  | meter => exact engine.map_point_meterPoints timestamp
  | plugin => exact map_point_extensionPoints _

/-- What a flush reports of the metrics, without the report of the engine's own work. -/
def metricPoints (engine : Engine α (StandardFactory α) (StandardMetric α)) (interval : Duration)
    (percent : Nat) : List (Attributed α) :=
  FlushKind.all.flatMap
    (engine.kindPoints (interval.seconds α) percent (Number.floorNat engine.wallClock))

/-- The work of a flush, as it is timed. -/
def flushStats (engine : Engine α (StandardFactory α) (StandardMetric α)) (interval : Duration)
    (percent : Nat) : FlushStats :=
  .ofSegments engine.stopwatch (engine.segments
    (engine.flushExtensions (interval.seconds α) (Number.floorNat engine.wallClock)) (interval.seconds α) percent
      (Number.floorNat engine.wallClock))

theorem attributedFlush_eq (engine : Engine α (StandardFactory α) (StandardMetric α)) (interval : Duration)
    (percent : Nat) : engine.attributedFlush interval percent =
      engine.metricPoints interval percent ++ (engine.summary (engine.flushStats interval percent)
        (Number.floorNat engine.wallClock)).map fun point => ⟨none, point⟩ := by
  simp [attributedFlush, metricPoints, flushStats, FlushKind.all, kindPoints]

theorem kindPoints_sublist (engine : Engine α (StandardFactory α) (StandardMetric α)) (interval : Duration)
    (percent : Nat) (kind : FlushKind) :
    (engine.kindPoints (interval.seconds α) percent (Number.floorNat engine.wallClock) kind).Sublist
      (engine.metricPoints interval percent) := by
  apply List.sublist_flatten_of_mem
  exact List.mem_map.mpr ⟨kind, by cases kind <;> simp [FlushKind.all], rfl⟩

theorem mem_metricPoints {engine : Engine α (StandardFactory α) (StandardMetric α)} {interval : Duration}
    {percent : Nat} {kind : FlushKind} {entry : Attributed α}
    (member : entry ∈ engine.kindPoints (interval.seconds α) percent (Number.floorNat engine.wallClock) kind) :
    entry ∈ engine.metricPoints interval percent :=
  (engine.kindPoints_sublist interval percent kind).mem member

theorem mem_attributedFlush {engine : Engine α (StandardFactory α) (StandardMetric α)} {interval : Duration}
    {percent : Nat} {entry : Attributed α} (member : entry ∈ engine.metricPoints interval percent) :
    entry ∈ engine.attributedFlush interval percent := by
  rw [attributedFlush_eq]
  exact List.mem_append_left _ member

/-- A metric has something to report in a flush. -/
def Reports (engine : Engine α (StandardFactory α) (StandardMetric α)) : MetricKind → String → Prop
  | .timer, key => ∃ timer, engine.timers.find? key = some timer ∧ timer.isIdle = false
  | .counter, key => engine.Has .counter key
  | .gauge, key => engine.Has .gauge key
  | .meter, key => engine.Has .meter key
  | .extension tag, key => engine.Has (.extension tag) key

section Further

theorem factoryName_standard (standard : Standard rules engine) :
    engine.factoryName "pd" = "pdistinct" ∧ engine.factoryName "sli" = "SLI" := by
  simp only [factoryName, standard.1, StandardFactory.find?_registry]
  exact ⟨rfl, rfl⟩

theorem Ruled.areNames {settings : Settings} (ruled : Ruled settings rules engine) (words : LabelsWords rules)
    {key : String} {indicator : Indicator α} (present : engine.extension? "sli" key = some (.inr indicator)) :
    AreNames (indicator.statistics.map Prod.fst) := by
  have labels := ruled.labels present
  apply Indicator.areNames
  · rw [labels]
    exact Conditions.nodup_labels_ofRules _ _
  · intro label member
    rw [labels] at member
    obtain ⟨rule, given, rfl⟩ := Conditions.label_of_mem_ofRules member
    exact words rule given

/-- A metric of a further type reports its statistics by their names, under its key in the area of its
kind. -/
theorem Ruled.paths_flushExtension (ruled : Ruled (.withPolicy policy) rules engine)
    (words : LabelsWords rules) (seconds : α) (timestamp : Nat) {tag key : String} {metric : StandardMetric α}
    (present : engine.extension? tag key = some metric) :
    ∃ area names, (MetricKind.extension tag).area? = some area ∧ AreNames names ∧ "count" ∈ names ∧
      ((engine.flushExtension seconds timestamp tag key metric).value.1.map Datapoint.path).Perm
        (names.map fun name => area ++ (separated key ++ name)) := by
  obtain ⟨distinctName, serviceName⟩ := factoryName_standard ruled.standard
  rcases ruled.standard.2 tag key metric present with ⟨rfl, distinct, rfl⟩ | ⟨rfl, indicator, rfl⟩
  · refine ⟨"stats.pdistinct.", _, rfl, distinct.areNames engine.wallClock, List.mem_cons_self, ?_⟩
    have place : (engine.settings.address (engine.factoryName "pd") key).path = joinPath "stats.pdistinct" key := by
      rw [distinctName, ruled.chosen]
      exact path_address policy rfl key
    change ((distinct.report _ engine.wallClock timestamp).map Datapoint.path).Perm _
    rw [place, DistinctMetric.report, List.map_map, List.map_map]
    apply List.Perm.of_eq
    apply List.map_congr_left
    intro entry _
    exact joinPath_joinPath_eq "stats.pdistinct" key entry.1 (by decide)
  · refine ⟨"stats.SLI.", _, rfl, ruled.areNames words present, List.mem_cons_self, ?_⟩
    have place : (engine.settings.address (engine.factoryName "sli") key).path = joinPath "stats.SLI" key := by
      rw [serviceName, ruled.chosen]
      exact path_address policy rfl key
    change ((indicator.report _ timestamp).map Datapoint.path).Perm _
    rw [place, Indicator.report]
    refine ((sortByPath_perm _).map _).trans ?_
    rw [List.map_map, List.map_map]
    apply List.Perm.of_eq
    apply List.map_congr_left
    intro entry _
    exact joinPath_joinPath_eq "stats.SLI" key entry.1 (by decide)

end Further

section Metrics

theorem mem_extensionPoints_iff {seconds : α} {timestamp : Nat} {entry : Attributed α} :
    entry ∈ extensionPoints (engine.flushExtensions seconds timestamp) ↔
      ∃ tag key metric, engine.extension? tag key = some metric ∧
        ∃ point ∈ (engine.flushExtension seconds timestamp tag key metric).value.1,
          entry = ⟨some ⟨.extension tag, key, point.path⟩, point⟩ := by
  simp only [extensionPoints, mem_sortAttributed, List.mem_flatMap, List.mem_map, Prod.exists,
    Table.mem_entries_iff, flushExtensions, Table.find?_mapKeyed, Option.map_eq_some_iff, extension?,
    Option.bind_eq_some_iff]
  constructor
  · rintro ⟨tag, _, ⟨metrics, tagged, rfl⟩, key, _, keyed, point, reported, rfl⟩
    rw [Table.find?_mapKeyed, Option.map_eq_some_iff] at keyed
    obtain ⟨metric, held, rfl⟩ := keyed
    exact ⟨tag, key, metric, ⟨metrics, tagged, held⟩, point, reported, rfl⟩
  · rintro ⟨tag, key, metric, ⟨metrics, tagged, held⟩, point, reported, rfl⟩
    refine ⟨tag, _, ⟨metrics, tagged, rfl⟩, key, _, ?_, point, reported, rfl⟩
    rw [Table.find?_mapKeyed, held]
    rfl

variable (ruled : Ruled (.withPolicy policy) rules engine) (words : LabelsWords rules)
include ruled words

theorem Ruled.mem_extensionPoints (seconds : α) (timestamp : Nat) {entry : Attributed α}
    (member : entry ∈ extensionPoints (engine.flushExtensions seconds timestamp)) :
    ∃ tag key path, entry.origin = some ⟨.extension tag, key, path⟩ ∧
      Origin.Regular ⟨.extension tag, key, path⟩ ∧ engine.Has (.extension tag) key := by
  obtain ⟨tag, key, metric, present, point, reported, rfl⟩ := mem_extensionPoints_iff.mp member
  refine ⟨tag, key, point.path, rfl, ?_, Option.isSome_of_eq_some present⟩
  obtain ⟨area, names, known, areNames, _, paths⟩ :=
    ruled.paths_flushExtension words seconds timestamp present
  obtain ⟨name, given, path⟩ := List.mem_map.mp (paths.mem_iff.mp (List.mem_map.mpr ⟨point, reported, rfl⟩))
  rw [← path]
  exact .named known key (areNames.undotted name given)

theorem Ruled.mem_kindPoints (seconds : α) (percent timestamp : Nat) {kind : FlushKind} {entry : Attributed α}
    (member : entry ∈ engine.kindPoints seconds percent timestamp kind) :
    ∃ origin, entry.origin = some origin ∧ origin.Regular ∧ FlushKind.ofMetric origin.kind = kind ∧
      engine.Reports origin.kind origin.key := by
  cases kind with
  | counter =>
      simp only [kindPoints, counterPoints, mem_sortAttributed, List.mem_flatMap, List.mem_cons,
        List.not_mem_nil, or_false] at member
      obtain ⟨⟨key, counter⟩, found, rfl | rfl⟩ := member
      · exact ⟨_, rfl, .rate key, rfl, Table.isSome_find?_of_mem found⟩
      · exact ⟨_, rfl, .count key, rfl, Table.isSome_find?_of_mem found⟩
  | timer =>
      simp only [kindPoints, timerPoints, attributedStatistics, mem_sortAttributed, List.mem_flatMap,
        List.mem_map, busyTimers, List.mem_filter] at member
      obtain ⟨⟨key, timer⟩, ⟨found, busy⟩, statistic, given, rfl⟩ := member
      have name : statistic.1 ∈ Timer.names percent := by
        rw [← timer.map_fst_statistics]
        exact List.mem_map.mpr ⟨statistic, given, rfl⟩
      have regular : (Origin.named .timer "stats.timers." key statistic.1).Regular :=
        .named rfl key ((Timer.areNames percent).undotted _ name)
      exact ⟨_, rfl, regular, rfl, timer, Table.mem_entries_iff.mp found, by simpa using busy⟩
  | gauge =>
      simp only [kindPoints, gaugePoints, mem_sortAttributed, List.mem_map] at member
      obtain ⟨⟨key, value⟩, pending, rfl⟩ := member
      refine ⟨_, rfl, .value key, rfl, ?_⟩
      change engine.gauges.valuesOf key ≠ []
      rw [GaugeQueue.valuesOf, ne_eq, List.map_eq_nil_iff, List.filter_eq_nil_iff]
      exact fun absent => absent (key, value) pending (decide_eq_true rfl)
  | meter =>
      simp only [kindPoints, meterPoints, attributedStatistics, mem_sortAttributed, List.mem_flatMap,
        List.mem_map] at member
      obtain ⟨⟨key, meter⟩, found, statistic, given, rfl⟩ := member
      have name : statistic.1 ∈ (meter.statistics engine.wallClock).map Prod.fst :=
        List.mem_map.mpr ⟨statistic, given, rfl⟩
      have regular : (Origin.named .meter "stats.meter." key statistic.1).Regular :=
        .named rfl key ((meter.areNames _).undotted _ name)
      exact ⟨_, rfl, regular, rfl, Table.isSome_find?_of_mem found⟩
  | plugin =>
      obtain ⟨tag, key, path, origin, regular, has⟩ := ruled.mem_extensionPoints words seconds timestamp member
      exact ⟨_, origin, regular, rfl, has⟩

omit ruled words in
theorem rate_mem_kindPoints (seconds : α) (percent timestamp : Nat) {key : String}
    (has : engine.Has .counter key) :
    ∃ entry ∈ engine.kindPoints seconds percent timestamp .counter,
      entry.origin = some ⟨.counter, key, "rate"⟩ := by
  obtain ⟨counter, found⟩ := Option.isSome_iff_exists.mp has
  refine ⟨⟨some ⟨.counter, key, "rate"⟩, engine.settings.ratePath key, counter.rate seconds, timestamp⟩, ?_, rfl⟩
  simp only [kindPoints, counterPoints, mem_sortAttributed]
  exact List.mem_flatMap.mpr ⟨(key, counter), Table.mem_entries_iff.mpr found, List.mem_cons_self⟩

/-- Every kind of metrics has a statistic of this name. -/
theorem Ruled.count_mem_kindPoints (seconds : α) (percent timestamp : Nat) {kind : MetricKind}
    {area key : String} (known : kind.area? = some area) (reports : engine.Reports kind key) :
    ∃ entry ∈ engine.kindPoints seconds percent timestamp (.ofMetric kind),
      entry.origin = some (.named kind area key "count") := by
  cases kind with
  | timer =>
      obtain rfl := Option.some.inj known
      obtain ⟨timer, found, busy⟩ := reports
      have named : "count" ∈ (timer.statistics percent (timestamp : α)).map Prod.fst := by
        rw [timer.map_fst_statistics]
        exact List.mem_cons_self
      obtain ⟨entry, member, origin⟩ := exists_attributedStatistics .timer key
        (engine.settings.timerPath key) timestamp named
      refine ⟨entry, ?_, origin⟩
      simp only [FlushKind.ofMetric, kindPoints, timerPoints, mem_sortAttributed]
      refine List.mem_flatMap.mpr ⟨(key, timer), ?_, mem_sortAttributed.mpr member⟩
      exact List.mem_filter.mpr ⟨Table.mem_entries_iff.mpr found, by simpa using busy⟩
  | meter =>
      obtain rfl := Option.some.inj known
      obtain ⟨meter, found⟩ := Option.isSome_iff_exists.mp reports
      have named : "count" ∈ (meter.statistics engine.wallClock).map Prod.fst := by simp [Meter.statistics]
      obtain ⟨entry, member, origin⟩ := exists_attributedStatistics .meter key
        (engine.settings.meterPath key) timestamp named
      refine ⟨entry, ?_, origin⟩
      simp only [FlushKind.ofMetric, kindPoints, meterPoints, mem_sortAttributed]
      exact List.mem_flatMap.mpr ⟨(key, meter), Table.mem_entries_iff.mpr found, member⟩
  | extension tag =>
      obtain ⟨metric, present⟩ := Option.isSome_iff_exists.mp reports
      obtain ⟨other, names, otherKnown, _, counted, paths⟩ :=
        ruled.paths_flushExtension words seconds timestamp present
      obtain rfl := Option.some.inj (known.symm.trans otherKnown)
      have reported := paths.mem_iff.mpr (List.mem_map.mpr ⟨"count", counted, rfl⟩)
      obtain ⟨point, inReport, path⟩ := List.mem_map.mp reported
      refine ⟨⟨some ⟨.extension tag, key, point.path⟩, point⟩, ?_, congrArg some ?_⟩
      · exact mem_extensionPoints_iff.mpr ⟨tag, key, metric, present, point, inReport, rfl⟩
      · exact congrArg (Origin.mk (.extension tag) key) path
  | counter => cases known
  | gauge => cases known

theorem Ruled.onceEach (interval : Duration) (percent : Nat) :
    OnceEach (engine.attributedFlush interval percent) := by
  rintro ⟨kind, key, statistic⟩ other
  cases kind with
  | counter =>
      rw [reportedOf_counter_statistic]
      cases engine.counters.find? key with
      | none => exact Nat.zero_le _
      | some counter =>
          rw [Option.toList_some, List.flatMap_singleton, List.length_map]
          refine length_filter_fst_le_one ?_ statistic
          change ["rate", "count"].Nodup
          decide
  | timer =>
      rw [reportedOf_timer]
      cases (engine.timers.find? key).filter fun timer => !timer.isIdle with
      | none => exact Nat.zero_le _
      | some timer =>
          rw [Option.toList_some, List.flatMap_singleton, List.length_map]
          apply length_filter_fst_le_one
          rw [timer.map_fst_statistics]
          exact (Timer.areNames percent).nodup
  | gauge => exact absurd rfl other
  | meter =>
      rw [reportedOf_meter]
      cases engine.meters.find? key with
      | none => exact Nat.zero_le _
      | some meter =>
          rw [Option.toList_some, List.flatMap_singleton, List.length_map]
          exact length_filter_fst_le_one (meter.areNames _).nodup statistic
  | extension tag =>
      rw [reportedOf_extension]
      cases present : engine.extension? tag key with
      | none => exact Nat.zero_le _
      | some metric =>
          obtain ⟨area, names, _, areNames, _, paths⟩ :=
            ruled.paths_flushExtension words (interval.seconds α) (Number.floorNat engine.wallClock) present
          have nodup := paths.nodup_iff.mpr (areNames.nodup.map fun one other same => by
            simpa [String.append_right_inj] using same)
          rw [Option.toList_some, List.flatMap_singleton, List.length_map]
          have single := List.nodup_iff_count_le_one.mp nodup statistic
          rwa [List.count_eq_countP, List.countP_map, List.countP_eq_length_filter] at single

end Metrics

end Standard

end Engine

end MetricAggregation
