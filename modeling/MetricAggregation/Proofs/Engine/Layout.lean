import Mathlib
import MetricAggregation.Proofs.Engine.Independence
import MetricAggregation.Proofs.Engine.Presence
import MetricAggregation.Proofs.Engine.Summary
import MetricAggregation.Proofs.Timer
import MetricAggregation.Proofs.Utf8

/-!
The layout of a flush: the segments of the five kinds, sorted by the bytes of the paths, and then a summary
that agrees with what is in them and with what was received.
-/

namespace MetricAggregation

section Sorting

variable {α : Type}

theorem pairwise_bytes_sortByPath (points : List (Datapoint α)) :
    (sortByPath points).Pairwise fun left right => Text.bytes left.path ≤ Text.bytes right.path :=
  (pairwise_mergeSort_le Datapoint.path points).imp Text.bytes_le

/-- Every tag has one entry, so that the sort is strict. -/
theorem pairwise_bytes_sorted (stats : ReceiveStats) :
    stats.sorted.Pairwise fun left right => Text.bytes left.1 < Text.bytes right.1 := by
  have ordered := pairwise_mergeSort_le Prod.fst stats.byTag.entries
  have distinct : (stats.byTag.entries.mergeSort fun left right => decide (left.1 ≤ right.1)).Pairwise
      fun left right => left.1 ≠ right.1 := by
    rw [← List.pairwise_map (f := Prod.fst) (R := (· ≠ ·))]
    exact ((List.mergeSort_perm _ _).map Prod.fst).nodup_iff.mpr stats.byTag.keysNodup
  refine (ordered.and distinct).imp ?_
  rintro left right ⟨atMost, different⟩
  exact Text.bytes_lt (lt_of_le_of_ne atMost different)

end Sorting

section Lengths

variable {α : Type} [Number α]

theorem Timer.length_report (timer : Timer α) (path : String) (percent timestamp : Nat) :
    (timer.report path percent timestamp).length = 13 := by
  rw [report, sortByPath, List.length_mergeSort, List.length_map]
  simp [statistics, Histogram.length_percentiles, quantiles]

def StandardMetric.reportLength : StandardMetric α → Nat
  | .inl _ => 4
  | .inr indicator => 2 + indicator.conditions.length

end Lengths

namespace Engine

section Reports

variable {α φ μ : Type} [Number α] [MetricFactory φ] [MetricPlugin φ μ α]

def furtherMetrics (engine : Engine α φ μ) : List (String × String × μ) :=
  engine.extensions.entries.flatMap fun (tag, metrics) =>
    metrics.entries.map fun (key, metric) => (tag, key, metric)

/-- The timers that are not idle. -/
def activeTimers (engine : Engine α φ μ) : List (String × Timer α) :=
  engine.timers.entries.filter fun entry => !entry.2.isIdle

/-- How many metrics of a kind there are to report, and for gauges how many values. -/
def reportingCount (engine : Engine α φ μ) : FlushKind → Nat
  | .counter => engine.counters.size
  | .timer => engine.activeTimers.length
  | .gauge => engine.gauges.size
  | .meter => engine.meters.size
  | .plugin => engine.furtherMetrics.length

/-- What each of the metrics of a kind reports in a flush, and for gauges each of the values. An idle timer
is left out. -/
def metricReports (engine : Engine α φ μ) (seconds : α) (percent timestamp : Nat) :
    FlushKind → List (List (Datapoint α))
  | .counter => engine.counters.entries.map fun (key, counter) =>
      counter.report (engine.settings.ratePath key) (engine.settings.countPath key) seconds timestamp
  | .timer => engine.activeTimers.map fun (key, timer) =>
      timer.report (engine.settings.timerPath key) percent timestamp
  | .gauge => engine.gauges.pending.toList.map fun (key, value) =>
      [⟨GaugeQueue.path engine.settings.gaugeStem key, value, timestamp⟩]
  | .meter => engine.meters.entries.map fun (key, meter) =>
      meter.report (engine.settings.meterPath key) engine.wallClock timestamp
  | .plugin => engine.furtherMetrics.map fun (tag, key, metric) =>
      (engine.flushExtension seconds timestamp tag key metric).value.1

omit [Number α] [MetricFactory φ] [MetricPlugin φ μ α] in
theorem busyTimers_eq_activeTimers (engine : Engine α φ μ) : engine.busyTimers = engine.activeTimers := rfl

omit [Number α] [MetricFactory φ] [MetricPlugin φ μ α] in
theorem mem_furtherMetrics_iff {engine : Engine α φ μ} {tag key : String} {metric : μ} :
    (tag, key, metric) ∈ engine.furtherMetrics ↔ engine.extension? tag key = some metric := by
  simp [furtherMetrics, extension?, Table.mem_entries_iff, Option.bind_eq_some_iff]

def segmentOf (engine : Engine α φ μ) (seconds : α) (percent timestamp : Nat) : FlushKind → Segment α
  | .counter => engine.counterSegment seconds timestamp
  | .timer => engine.timerSegment percent timestamp
  | .gauge => engine.gaugeSegment timestamp
  | .meter => engine.meterSegment timestamp
  | .plugin => (engine.flushExtensions seconds timestamp).segment

variable (engine : Engine α φ μ) (seconds : α) (percent timestamp : Nat)

theorem segments_eq :
    engine.segments (engine.flushExtensions seconds timestamp) seconds percent timestamp =
      FlushKind.all.map (engine.segmentOf seconds percent timestamp) := rfl

omit [Number α] in
theorem values_flushExtensions :
    (engine.flushExtensions seconds timestamp).values.flatMap Table.values =
      engine.furtherMetrics.map fun (tag, key, metric) =>
        engine.flushExtension seconds timestamp tag key metric := by
  simp only [flushExtensions, furtherMetrics, Table.values, Table.mapKeyed, List.map_map,
    List.map_flatMap, List.flatMap_map, Function.comp_def]

theorem points_segmentOf (kind : FlushKind) :
    (engine.segmentOf seconds percent timestamp kind).points =
      sortByPath (engine.metricReports seconds percent timestamp kind).flatten := by
  cases kind with
  | gauge =>
      rw [metricReports, ← List.flatMap_def, ← List.map_eq_flatMap]
      rfl
  | plugin =>
      change sortByPath (((engine.flushExtensions seconds timestamp).values.flatMap
        Table.values).flatMap fun report => report.value.1) = _
      rw [values_flushExtensions, List.flatMap_map, List.flatMap_def]
      rfl
  | counter | timer | meter =>
      simp only [segmentOf, counterSegment, timerSegment, busyTimers_eq_activeTimers, meterSegment,
        metricReports, List.flatMap_def]

theorem length_metricReports (kind : FlushKind) :
    (engine.metricReports seconds percent timestamp kind).length = engine.reportingCount kind := by
  cases kind <;> simp [metricReports, reportingCount, Table.size, GaugeQueue.size]

theorem count_segmentOf (kind : FlushKind) :
    (engine.segmentOf seconds percent timestamp kind).count = engine.reportingCount kind := by
  cases kind with
  | plugin =>
      simp only [segmentOf, ExtensionReports.segment, values_flushExtensions, reportingCount, List.length_map]
  | counter | timer | gauge | meter => rfl

theorem count_tally_ofSegments (watch : Stopwatch) (kind : FlushKind) :
    ((FlushStats.ofSegments watch (engine.segments (engine.flushExtensions seconds timestamp) seconds percent
      timestamp)).tally kind).count = engine.reportingCount kind := by
  rw [← engine.count_segmentOf seconds percent timestamp]
  cases kind <;> exact Nat.zero_add _

theorem mem_flush_cases {interval : Duration} {point : Datapoint α}
    (member : point ∈ (engine.flush interval percent).1) :
    (∃ kind, point ∈ (engine.metricReports (interval.seconds α) percent (Number.floorNat engine.wallClock)
        kind).flatten) ∨
      ∃ stats, point ∈ engine.summary stats (Number.floorNat engine.wallClock) := by
  rcases List.mem_append.mp member with segments | summary
  · rw [segments_eq, List.flatMap_map] at segments
    obtain ⟨kind, _, inSegment⟩ := List.mem_flatMap.mp segments
    rw [points_segmentOf, (sortByPath_perm _).mem_iff] at inSegment
    exact .inl ⟨kind, inSegment⟩
  · exact .inr ⟨_, summary⟩

end Reports

end Engine

/-- The parts of a flush: the segments and how the work on each of them went, and the same for the messages
of each tag. -/
structure FlushParts (α : Type) where
  segment : FlushKind → List (Datapoint α)
  tally : FlushKind → Tally
  received : List (String × Tally)

namespace FlushParts

variable {α : Type} [Number α]

/-- The kinds in their order, by name. -/
def kinds : List (FlushKind × String) :=
  [(.counter, "counter"), (.timer, "timer"), (.gauge, "gauge"), (.meter, "meter"), (.plugin, "plugin")]

def total (parts : FlushParts α) : Nat := (kinds.map fun kind => (parts.tally kind.1).count).sum

/-- A count and a duration. -/
def tallied (path : String) (tally : Tally) (timestamp : Nat) : List (Datapoint α) :=
  [⟨path ++ ".count", (tally.count : α), timestamp⟩,
    ⟨path ++ ".duration", Number.roundToMicro (tally.time.milliseconds α), timestamp⟩]

/-- The parts one after another: the segments, the number of metrics, and the counts and durations. -/
def points (parts : FlushParts α) (stem : String) (timestamp : Nat) : List (Datapoint α) :=
  (kinds.flatMap fun kind => parts.segment kind.1) ++
    (⟨joinPath stem "numStats", (parts.total : α), timestamp⟩ ::
      (kinds.flatMap fun kind =>
        tallied (joinPath stem ("flush." ++ kind.2)) (parts.tally kind.1) timestamp) ++
      parts.received.flatMap fun (tag, tally) => tallied (joinPath stem ("receive." ++ tag)) tally timestamp)

/-- The parts agree with the metrics of an engine and with what it noted since the flush before. -/
structure Describe (parts : FlushParts α) (engine : Engine α (StandardFactory α) (StandardMetric α))
    (noted : List Note) (seconds : α) (percent timestamp : Nat) : Prop where
  reported (kind : FlushKind) :
    (parts.segment kind).Perm (engine.metricReports seconds percent timestamp kind).flatten
  ordered (kind : FlushKind) :
    (parts.segment kind).Pairwise fun left right => Text.bytes left.path ≤ Text.bytes right.path
  /-- Datapoints that share a path are in the order of the metrics, and of arrival for gauges. -/
  stable (kind : FlushKind) (path : String) :
    (parts.segment kind).filter (fun point => point.path = path) =
      (engine.metricReports seconds percent timestamp kind).flatten.filter fun point => point.path = path
  counters : (parts.segment .counter).length = 2 * engine.counters.size
  timers : (parts.segment .timer).length = 13 * engine.activeTimers.length
  /-- Idle are the timers that flushes reset and that no duration came to since the last one. -/
  idle : ∀ entry ∈ engine.timers.entries, entry ∈ engine.activeTimers ↔
    entry.2.policy = .continuous ∨ entry.2.count ≠ 0
  gauges : (parts.segment .gauge).length = engine.gauges.size
  meters : (parts.segment .meter).length = 5 * engine.meters.size
  further : (parts.segment .plugin).length =
    (engine.furtherMetrics.map fun entry => StandardMetric.reportLength entry.2.2).sum
  counted (kind : FlushKind) : (parts.tally kind).count = engine.reportingCount kind
  tagsOrdered : parts.received.Pairwise fun left right => Text.bytes left.1 < Text.bytes right.1
  tags (tag : String) : tag ∈ parts.received.map Prod.fst ↔ Note.received tag ∈ noted
  received : ∀ entry ∈ parts.received, entry.2.count = noted.count (.received entry.1)

end FlushParts

namespace Engine

section Standard

variable {α : Type} [Number α]
variable (engine : Engine α (StandardFactory α) (StandardMetric α)) (seconds : α) (percent timestamp : Nat)

theorem length_flushExtension (tag key : String) (metric : StandardMetric α) :
    (engine.flushExtension seconds timestamp tag key metric).value.1.length =
      StandardMetric.reportLength metric := by
  cases metric with
  | inl distinct => rfl
  | inr indicator =>
      change (indicator.report _ _).length = _
      rw [Indicator.report, sortByPath, List.length_mergeSort, List.length_map, Indicator.statistics,
        StandardMetric.reportLength]
      simp
      omega

theorem timestamp_flushExtension (tag key : String) (metric : StandardMetric α) :
    ∀ point ∈ (engine.flushExtension seconds timestamp tag key metric).value.1,
      point.timestamp = timestamp := by
  intro point member
  cases metric with
  | inl distinct =>
      obtain ⟨_, _, rfl⟩ := List.mem_map.mp member
      rfl
  | inr indicator =>
      obtain ⟨_, _, rfl⟩ := List.mem_map.mp (List.mem_mergeSort.mp member)
      rfl

theorem timestamp_metricReports (kind : FlushKind) :
    ∀ point ∈ (engine.metricReports seconds percent timestamp kind).flatten,
      point.timestamp = timestamp := by
  intro point member
  obtain ⟨report, reported, inReport⟩ := List.mem_flatten.mp member
  cases kind with
  | counter =>
      obtain ⟨_, _, rfl⟩ := List.mem_map.mp reported
      simp only [Counter.report, List.mem_cons, List.not_mem_nil, or_false] at inReport
      rcases inReport with rfl | rfl
      · rfl
      · rfl
  | timer =>
      obtain ⟨_, _, rfl⟩ := List.mem_map.mp reported
      obtain ⟨_, _, rfl⟩ := List.mem_map.mp (List.mem_mergeSort.mp inReport)
      rfl
  | gauge =>
      obtain ⟨_, _, rfl⟩ := List.mem_map.mp reported
      obtain rfl := List.mem_singleton.mp inReport
      rfl
  | meter =>
      obtain ⟨_, _, rfl⟩ := List.mem_map.mp reported
      obtain ⟨_, _, rfl⟩ := List.mem_map.mp inReport
      rfl
  | plugin =>
      obtain ⟨⟨tag, key, metric⟩, _, rfl⟩ := List.mem_map.mp reported
      exact engine.timestamp_flushExtension seconds timestamp tag key metric point inReport

theorem length_flatten_metricReports :
    (engine.metricReports seconds percent timestamp .counter).flatten.length = 2 * engine.counters.size ∧
      (engine.metricReports seconds percent timestamp .timer).flatten.length =
        13 * engine.activeTimers.length ∧
      (engine.metricReports seconds percent timestamp .gauge).flatten.length = engine.gauges.size ∧
      (engine.metricReports seconds percent timestamp .meter).flatten.length = 5 * engine.meters.size ∧
      (engine.metricReports seconds percent timestamp .plugin).flatten.length =
        (engine.furtherMetrics.map fun entry => StandardMetric.reportLength entry.2.2).sum := by
  simp only [List.length_flatten, metricReports, List.map_map, Function.comp_def, Timer.length_report,
    length_flushExtension, List.map_const', List.sum_replicate_nat]
  simp [Counter.report, Meter.report, Meter.statistics, Table.size, GaugeQueue.size, Nat.mul_comm]

def flushParts : FlushParts α where
  segment kind := (engine.segmentOf seconds percent timestamp kind).points
  tally kind := (FlushStats.ofSegments engine.stopwatch (engine.segments
    (engine.flushExtensions seconds timestamp) seconds percent timestamp)).tally kind
  received := engine.received.sorted

omit [Number α] in
theorem total_eq (stats : FlushStats) :
    stats.total = (FlushKind.all.map fun kind => (stats.tally kind).count).sum := by
  simp only [FlushStats.total, FlushKind.all, List.foldl_cons, List.foldl_nil, List.map_cons, List.map_nil,
    List.sum_cons, List.sum_nil]
  omega

theorem points_flush (interval : Duration) :
    (engine.flush interval percent).1 =
      (engine.flushParts (interval.seconds α) percent (Number.floorNat engine.wallClock)).points
        engine.settings.internalStem (Number.floorNat engine.wallClock) := by
  simp only [flush, summary, total_eq, segments_eq, List.flatMap_map]
  rfl

theorem timestamp_flush (interval : Duration) :
    ∀ point ∈ (engine.flush interval percent).1, point.timestamp = Number.floorNat engine.wallClock := by
  intro point member
  rcases engine.mem_flush_cases percent member with ⟨kind, reported⟩ | ⟨stats, summary⟩
  · exact engine.timestamp_metricReports _ percent _ kind point reported
  · exact (engine.mem_summary_cases _ summary).1

omit [Number α] in
theorem mem_activeTimers_iff {entry : String × Timer α} (listed : entry ∈ engine.timers.entries) :
    entry ∈ engine.activeTimers ↔ entry.2.policy = .continuous ∨ entry.2.count ≠ 0 := by
  rw [activeTimers, List.mem_filter, and_iff_right listed, Bool.not_eq_true', ← Bool.not_eq_true,
    Timer.isIdle_iff, not_and_or]
  cases entry.2.policy with
  | resetOnFlush => simp
  | continuous => simp

theorem describe_flushParts {noted : List Note}
    (counted : ∀ tag, engine.receivedCount tag = raised none (noted.count (.received tag))) :
    (engine.flushParts seconds percent timestamp).Describe engine noted seconds percent timestamp := by
  have segment (kind : FlushKind) : (engine.flushParts seconds percent timestamp).segment kind =
      sortByPath (engine.metricReports seconds percent timestamp kind).flatten :=
    engine.points_segmentOf seconds percent timestamp kind
  obtain ⟨counters, timers, gauges, meters, further⟩ :=
    engine.length_flatten_metricReports seconds percent timestamp
  constructor
  case reported =>
    intro kind
    rw [segment]
    exact sortByPath_perm _
  case ordered =>
    intro kind
    rw [segment]
    exact pairwise_bytes_sortByPath _
  case stable =>
    intro kind path
    rw [segment, filter_sortByPath]
  case counters => rw [segment, (sortByPath_perm _).length_eq, counters]
  case timers => rw [segment, (sortByPath_perm _).length_eq, timers]
  case idle => exact fun entry listed => engine.mem_activeTimers_iff listed
  case gauges => rw [segment, (sortByPath_perm _).length_eq, gauges]
  case meters => rw [segment, (sortByPath_perm _).length_eq, meters]
  case further => rw [segment, (sortByPath_perm _).length_eq, further]
  case counted => exact engine.count_tally_ofSegments seconds percent timestamp engine.stopwatch
  case tagsOrdered => exact pairwise_bytes_sorted _
  case tags =>
    intro tag
    have known : tag ∈ engine.received.sorted.map Prod.fst ↔ (engine.receivedCount tag).isSome := by
      simp [receivedCount, mem_sorted_iff, Option.isSome_iff_exists]
    refine known.trans ?_
    rw [counted, ← List.count_pos_iff, raised]
    by_cases absent : noted.count (.received tag) = 0
    · rw [if_pos absent, absent]
      exact iff_of_false Bool.false_ne_true (Nat.lt_irrefl 0)
    · rw [if_neg absent]
      exact iff_of_true rfl (Nat.pos_of_ne_zero absent)
  case received =>
    rintro ⟨tag, tally⟩ member
    have found : engine.receivedCount tag = some tally.count :=
      congrArg (Option.map Tally.count) (mem_sorted_iff.mp member)
    rw [counted, raised] at found
    split at found
    · cases found
    · simpa using (Option.some.inj found).symm

/-- In every state that an engine with the standard metric types can reach, a flush reports the segments of
the kinds, sorted by path, and then a summary of what is in them and of the messages received since the
flush before, all with one timestamp. The counters are those that an update was ever accepted for, and the gauge
values those accepted since the flush before, in the order of arrival. -/
theorem flush_laidOut (settings : Settings) (chance : Chance α) (rules : List (Rule α)) (now : α)
    (steps : List (Step α)) (interval : Duration) (percent : Nat) :
    let fresh : Engine α (StandardFactory α) (StandardMetric α) :=
      .new settings chance (StandardFactory.registry rules) now
    let engine := (fresh.run steps).2
    let timestamp := Number.floorNat engine.wallClock
    let points := (engine.flush interval percent).1
    ∃ parts : FlushParts α,
      points = parts.points settings.internalStem timestamp ∧
        (∀ point ∈ points, point.timestamp = timestamp) ∧
        parts.Describe engine (fresh.notesSince [] steps) (interval.seconds α) percent timestamp ∧
        (∀ key, key ∈ engine.counters.keys ↔
          ∃ update ∈ fresh.acceptedIn steps, update.target = (.counter, key)) ∧
        engine.gauges.pending.toList = (fresh.acceptedSince [] steps).filterMap Update.waiting? ∧
        ∀ tag key metric, (tag, key, metric) ∈ engine.furtherMetrics → StandardMetric.Under tag metric := by
  intro fresh engine timestamp points
  have reached : engine.settings = settings ∧ Standard rules engine :=
    ((invariant_settings settings).and invariant_standard).run steps
      ⟨rfl, standard_new settings chance rules now⟩
  refine ⟨engine.flushParts (interval.seconds α) percent timestamp, ?_,
    engine.timestamp_flush percent interval, ?_, ?_, pending_run_since steps fresh [] rfl, ?_⟩
  · rw [← reached.1]
    exact engine.points_flush percent interval
  · exact engine.describe_flushParts _ _ _ (receivedCount_run steps fresh [] fun _ => rfl)
  · intro key
    rw [Table.mem_keys_iff]
    have nothing : ¬fresh.Has .counter key := Bool.false_ne_true
    have lasting : MetricKind.counter ≠ .gauge := nofun
    exact (has_run_iff lasting steps fresh).trans (or_iff_right nothing)
  · intro tag key metric member
    exact reached.2.2 tag key metric (mem_furtherMetrics_iff.mp member)

end Standard

end Engine

end MetricAggregation
