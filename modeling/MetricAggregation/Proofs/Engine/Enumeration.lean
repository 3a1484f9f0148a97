import MetricAggregation.Proofs.Engine.SharedPaths

/-!
What a flush owes to the order in which tables list their entries: nothing but the order of datapoints that
share a path.
-/

namespace MetricAggregation

section Sorting

variable {β : Type} {left right : List β} (name : β → String)

/-- A sort by names leaves no choice if no two entries share a name. -/
theorem mergeSort_eq_of_perm (same : left.Perm right) (distinct : (left.map name).Nodup) :
    (left.mergeSort fun one other => decide (name one ≤ name other)) =
      right.mergeSort fun one other => decide (name one ≤ name other) :=
  mergeSort_eq_of_apart name same fun _ inLeft _ alsoInLeft => List.inj_on_of_nodup_map distinct inLeft alsoInLeft

end Sorting

namespace Table

variable {β : Type} {left right : Table β}

theorem nodup_entries (table : Table β) : table.entries.Nodup := .of_map Prod.fst table.keysNodup

/-- Tables with the same entries, in whatever order, are those with the same values under all names. -/
theorem perm_entries_iff : left.entries.Perm right.entries ↔ ∀ name, left.find? name = right.find? name := by
  rw [List.perm_ext_iff_of_nodup left.nodup_entries right.nodup_entries]
  constructor
  · intro same name
    apply Option.ext
    intro value
    rw [← mem_entries_iff, ← mem_entries_iff, same]
  · rintro same ⟨name, value⟩
    rw [mem_entries_iff, mem_entries_iff, same]

end Table

namespace Engine

variable {α φ μ : Type}

/-- Two engines are the same but for the order in which their tables list the entries. -/
structure Reordered (left right : Engine α φ μ) : Prop where
  settings : left.settings = right.settings
  chance : left.chance = right.chance
  plugins : left.plugins = right.plugins
  counters : left.counters.entries.Perm right.counters.entries
  timers : left.timers.entries.Perm right.timers.entries
  gauges : left.gauges = right.gauges
  meters : left.meters.entries.Perm right.meters.entries
  tags : left.extensions.keys.Perm right.extensions.keys
  extensions {tag : String} {leftMetrics rightMetrics : Table μ} :
    left.extensions.find? tag = some leftMetrics → right.extensions.find? tag = some rightMetrics →
      leftMetrics.entries.Perm rightMetrics.entries
  received : left.received.byTag.entries.Perm right.received.byTag.entries
  badLines : left.badLines = right.badLines
  wallClock : left.wallClock = right.wallClock
  stopwatch : left.stopwatch = right.stopwatch

theorem Reordered.extension? {left right : Engine α φ μ} (same : Reordered left right) (tag key : String) :
    left.extension? tag key = right.extension? tag key := by
  have known := same.tags.mem_iff (a := tag)
  rw [Table.mem_keys_iff, Table.mem_keys_iff] at known
  unfold Engine.extension?
  cases leftFound : left.extensions.find? tag with
  | none =>
      cases rightFound : right.extensions.find? tag with
      | none => rfl
      | some metrics => simp [leftFound, rightFound] at known
  | some leftMetrics =>
      cases rightFound : right.extensions.find? tag with
      | none => simp [leftFound, rightFound] at known
      | some rightMetrics => exact Table.perm_entries_iff.mp (same.extensions leftFound rightFound) key

theorem nodup_furtherMetrics (engine : Engine α φ μ) : engine.furtherMetrics.Nodup := by
  rw [furtherMetrics, List.nodup_flatMap]
  constructor
  · rintro ⟨tag, metrics⟩ _
    refine metrics.nodup_entries.map ?_
    rintro ⟨key, metric⟩ ⟨otherKey, other⟩ same
    cases same
    rfl
  · refine (List.pairwise_map.mp engine.extensions.keysNodup).imp ?_
    rintro ⟨tag, metrics⟩ ⟨otherTag, others⟩ different entry first second
    obtain ⟨⟨key, metric⟩, _, rfl⟩ := List.mem_map.mp first
    obtain ⟨⟨otherKey, other⟩, _, same⟩ := List.mem_map.mp second
    exact different (congrArg Prod.fst same).symm

theorem Reordered.furtherMetrics {left right : Engine α φ μ} (same : Reordered left right) :
    left.furtherMetrics.Perm right.furtherMetrics := by
  rw [List.perm_ext_iff_of_nodup left.nodup_furtherMetrics right.nodup_furtherMetrics]
  rintro ⟨tag, key, metric⟩
  rw [mem_furtherMetrics_iff, mem_furtherMetrics_iff, same.extension?]

section Flush

variable [Number α] [MetricFactory φ] [MetricPlugin φ μ α] {left right : Engine α φ μ}
variable (same : Reordered left right) (seconds : α) (percent timestamp : Nat)
include same

omit [Number α] in
theorem Reordered.flushExtension : left.flushExtension seconds timestamp = right.flushExtension seconds timestamp := by
  funext tag key metric
  simp only [Engine.flushExtension, factoryName, same.settings, same.plugins, same.wallClock]

theorem Reordered.metricReports (kind : FlushKind) :
    (left.metricReports seconds percent timestamp kind).Perm (right.metricReports seconds percent timestamp kind) := by
  cases kind with
  | counter =>
      simp only [Engine.metricReports, same.settings]
      exact same.counters.map _
  | timer =>
      simp only [Engine.metricReports, same.settings]
      exact (same.timers.filter _).map _
  | gauge => simp only [Engine.metricReports, same.settings, same.gauges, List.Perm.refl]
  | meter =>
      simp only [Engine.metricReports, same.settings, same.wallClock]
      exact same.meters.map _
  | plugin =>
      simp only [Engine.metricReports, same.flushExtension]
      exact same.furtherMetrics.map _

theorem Reordered.took (kind : FlushKind) :
    (left.segmentOf seconds percent timestamp kind).took = (right.segmentOf seconds percent timestamp kind).took := by
  cases kind with
  | plugin =>
      simp only [segmentOf, ExtensionReports.segment, values_flushExtensions, same.flushExtension]
      apply (same.furtherMetrics.map _).foldl_eq'
      intro one _ other _ total
      omega
  | counter | timer | gauge | meter => rfl

theorem Reordered.ofSegments :
    FlushStats.ofSegments left.stopwatch
        (left.segments (left.flushExtensions seconds timestamp) seconds percent timestamp) =
      FlushStats.ofSegments right.stopwatch
        (right.segments (right.flushExtensions seconds timestamp) seconds percent timestamp) := by
  have segment (kind : FlushKind) :
      (left.segmentOf seconds percent timestamp kind).count = (right.segmentOf seconds percent timestamp kind).count := by
    have reports := (same.metricReports seconds percent timestamp kind).length_eq
    rw [length_metricReports, length_metricReports] at reports
    rw [count_segmentOf, count_segmentOf, reports]
  have kinds (engine : Engine α φ μ) (kind : FlushKind) :
      (engine.segmentOf seconds percent timestamp kind).kind = kind := by
    cases kind <;> rfl
  simp only [FlushStats.ofSegments, segments_eq, List.foldl_map, kinds, segment, same.took seconds percent timestamp, same.stopwatch]

omit [Number α] [MetricFactory φ] [MetricPlugin φ μ α] in
theorem Reordered.sorted : left.received.sorted = right.received.sorted :=
  mergeSort_eq_of_perm Prod.fst same.received left.received.byTag.keysNodup

omit [MetricFactory φ] [MetricPlugin φ μ α] in
theorem Reordered.summary (stats : FlushStats) : left.summary stats timestamp = right.summary stats timestamp := by
  simp only [Engine.summary, same.settings, same.sorted]

theorem Reordered.points_perm (kind : FlushKind) :
    (left.segmentOf seconds percent timestamp kind).points.Perm
      (right.segmentOf seconds percent timestamp kind).points := by
  rw [points_segmentOf, points_segmentOf]
  exact mergeSort_perm_of_perm Datapoint.path (same.metricReports seconds percent timestamp kind).flatten

theorem Reordered.path_points (kind : FlushKind) :
    (left.segmentOf seconds percent timestamp kind).points.map Datapoint.path =
      (right.segmentOf seconds percent timestamp kind).points.map Datapoint.path := by
  rw [points_segmentOf, points_segmentOf]
  exact map_mergeSort_eq_of_perm Datapoint.path (same.metricReports seconds percent timestamp kind).flatten

theorem Reordered.points_eq {kind : FlushKind}
    (distinct : ((left.segmentOf seconds percent timestamp kind).points.map Datapoint.path).Nodup) :
    (left.segmentOf seconds percent timestamp kind).points =
      (right.segmentOf seconds percent timestamp kind).points := by
  rw [points_segmentOf] at distinct ⊢
  rw [points_segmentOf]
  have unsorted := ((sortByPath_perm _).map Datapoint.path).nodup_iff.mp distinct
  exact mergeSort_eq_of_perm Datapoint.path (same.metricReports seconds percent timestamp kind).flatten unsorted

omit same seconds timestamp in
theorem points_flush_eq (engine : Engine α φ μ) (interval : Duration) :
    (engine.flush interval percent).1 =
      (FlushKind.all.flatMap fun kind => (engine.segmentOf (interval.seconds α) percent
          (Number.floorNat engine.wallClock) kind).points) ++
        engine.summary (.ofSegments engine.stopwatch (engine.segments
          (engine.flushExtensions (interval.seconds α) (Number.floorNat engine.wallClock)) (interval.seconds α)
            percent (Number.floorNat engine.wallClock))) (Number.floorNat engine.wallClock) := by
  simp only [Engine.flush, segments_eq, List.flatMap_map]

omit seconds timestamp in
/-- A flush has the same datapoints, and their paths in the same order. -/
theorem Reordered.flush (interval : Duration) :
    (left.flush interval percent).1.Perm (right.flush interval percent).1 ∧
      (left.flush interval percent).1.map Datapoint.path = (right.flush interval percent).1.map Datapoint.path := by
  rw [points_flush_eq, points_flush_eq, same.wallClock, same.ofSegments, same.summary]
  constructor
  · refine .append ?_ (.refl _)
    exact List.Perm.flatMap_left _ fun kind _ => same.points_perm _ percent _ kind
  · rw [List.map_append, List.map_append, List.map_flatMap, List.map_flatMap]
    simp only [same.path_points]

omit seconds timestamp in
theorem Reordered.flush_eq (interval : Duration)
    (points : ∀ kind, (left.segmentOf (interval.seconds α) percent (Number.floorNat left.wallClock) kind).points =
      (right.segmentOf (interval.seconds α) percent (Number.floorNat right.wallClock) kind).points) :
    (left.flush interval percent).1 = (right.flush interval percent).1 := by
  rw [points_flush_eq, points_flush_eq]
  simp only [points]
  rw [same.wallClock, same.ofSegments, same.summary]

end Flush

section Standard

variable [Number α] {policy : ReservoirPolicy} {rules : List (Rule α)}

/-- No two metrics of a kind, both of which report and report by names under their keys, have twin keys. -/
def Untwinned (engine : Engine α (StandardFactory α) (StandardMetric α)) (kind : FlushKind) : Prop :=
  ∀ metric area, metric.area? = some area → FlushKind.ofMetric metric = kind →
    ∀ left right, engine.Reports metric left → engine.Reports metric right → ¬Key.Twins left right

theorem Ruled.nodup_path_segmentOf_iff {engine : Engine α (StandardFactory α) (StandardMetric α)}
    (ruled : Ruled (.withPolicy policy) rules engine) (words : LabelsWords rules) (interval : Duration)
    (percent : Nat) {kind : FlushKind} (other : kind ≠ .gauge) :
    ((engine.segmentOf (interval.seconds α) percent (Number.floorNat engine.wallClock) kind).points.map
      Datapoint.path).Nodup ↔ engine.Untwinned kind := by
  rw [← map_point_kindPoints, List.map_map]
  constructor
  · intro nodup metric area known own left right leftReports rightReports twins
    subst own
    obtain ⟨one, oneMember, oneOrigin⟩ := ruled.count_mem_kindPoints words (interval.seconds α) percent
      (Number.floorNat engine.wallClock) known leftReports
    obtain ⟨two, twoMember, twoOrigin⟩ := ruled.count_mem_kindPoints words (interval.seconds α) percent
      (Number.floorNat engine.wallClock) known rightReports
    have shares : (Origin.named metric area left "count").Shares (.named metric area right "count") :=
      .twins known twins rfl rfl
    have path : one.point.path = two.point.path := by
      rw [ruled.path_eq (mem_attributedFlush (mem_metricPoints oneMember)) oneOrigin,
        ruled.path_eq (mem_attributedFlush (mem_metricPoints twoMember)) twoOrigin,
        Origin.path_eq_of_shares shares]
    obtain rfl := List.inj_on_of_nodup_map nodup oneMember twoMember path
    have key := congrArg (Option.map Origin.key) (oneOrigin.symm.trans twoOrigin)
    exact twins.ne (Option.some.inj key)
  · intro untwinned
    have sharing := ruled.pairwise_shares words interval percent
    rw [attributedFlush_eq] at sharing
    refine List.pairwise_map.mpr (((List.pairwise_append.mp sharing).1.sublist
      (engine.kindPoints_sublist interval percent kind)).imp_of_mem ?_)
    intro left right leftMember rightMember shared path
    obtain ⟨one, two, leftOrigin, rightOrigin, shares⟩ := shared.mp path
    obtain ⟨_, leftOwn, _, leftKind, leftReports⟩ := ruled.mem_kindPoints words _ _ _ leftMember
    obtain ⟨_, rightOwn, _, rightKind, rightReports⟩ := ruled.mem_kindPoints words _ _ _ rightMember
    obtain rfl := Option.some.inj (leftOrigin.symm.trans leftOwn)
    obtain rfl := Option.some.inj (rightOrigin.symm.trans rightOwn)
    cases shares with
    | values gauge _ =>
        rw [gauge] at leftKind
        exact other leftKind.symm
    | twins known twins first second =>
        subst first second
        exact untwinned _ _ known leftKind _ _ leftReports rightReports twins
    | spelling spells =>
        rw [← leftKind, spells.kind] at rightKind
        exact spells.apart (FlushKind.ofMetric_eq_counter_iff.mp rightKind)
    | spelled spells =>
        rw [← rightKind, spells.kind] at leftKind
        exact spells.apart (FlushKind.ofMetric_eq_counter_iff.mp leftKind)

/-- In every state that an engine with the standard metric types and the default stems can reach, with rules
that have been read, the paths of a kind other than gauges are distinct just if no two of its metrics have
twin keys. However the tables list their entries, a flush has the same datapoints, with their paths in the
same order, and it is the same list wherever no two metrics have twin keys. -/
theorem flush_eq_of_reordered (policy : ReservoirPolicy) (chance : Chance α) {text : String}
    {rules : List (Rule α)} (parsed : Rule.parseAll text = .ok rules) (now : α) (steps : List (Step α))
    (interval : Duration) (percent : Nat) :
    let start : Engine α (StandardFactory α) (StandardMetric α) :=
      .new (.withPolicy policy) chance (StandardFactory.registry rules) now
    let engine := (start.run steps).2
    let segment (engine : Engine α (StandardFactory α) (StandardMetric α)) (kind : FlushKind) :=
      (engine.segmentOf (interval.seconds α) percent (Number.floorNat engine.wallClock) kind).points
    (∀ kind ≠ .gauge, ((segment engine kind).map Datapoint.path).Nodup ↔ engine.Untwinned kind) ∧
      ∀ first second, engine.Reordered first → engine.Reordered second →
        (first.flush interval percent).1.Perm (second.flush interval percent).1 ∧
          (first.flush interval percent).1.map Datapoint.path =
            (second.flush interval percent).1.map Datapoint.path ∧
          (∀ kind, engine.Untwinned kind → segment first kind = segment second kind) ∧
          ((∀ kind, engine.Untwinned kind) → (first.flush interval percent).1 = (second.flush interval percent).1) := by
  intro start engine segment
  have ruled : Ruled (.withPolicy policy) rules engine :=
    invariant_ruled.run steps (ruled_new (.withPolicy policy) chance rules now)
  have words : LabelsWords rules := Rule.isWord_label_parseAll parsed
  have distinct (kind : FlushKind) (other : kind ≠ .gauge) :
      ((segment engine kind).map Datapoint.path).Nodup ↔ engine.Untwinned kind :=
    ruled.nodup_path_segmentOf_iff words interval percent other
  have kept (kind : FlushKind) (untwinned : engine.Untwinned kind)
      {other : Engine α (StandardFactory α) (StandardMetric α)} (same : engine.Reordered other) :
      segment engine kind = segment other kind := by
    simp only [segment, ← same.wallClock]
    by_cases gauge : kind = .gauge
    · subst gauge
      simp only [segmentOf, gaugeSegment, same.gauges, same.settings]
    · exact same.points_eq _ percent _ ((distinct kind gauge).mpr untwinned)
  refine ⟨distinct, ?_⟩
  intro first second firstSame secondSame
  obtain ⟨firstPerm, firstPaths⟩ := firstSame.flush percent interval
  obtain ⟨secondPerm, secondPaths⟩ := secondSame.flush percent interval
  refine ⟨firstPerm.symm.trans secondPerm, firstPaths.symm.trans secondPaths, ?_, ?_⟩
  · exact fun kind untwinned => (kept kind untwinned firstSame).symm.trans (kept kind untwinned secondSame)
  · intro untwinned
    have firstFlush := firstSame.flush_eq percent interval fun kind => kept kind (untwinned kind) firstSame
    have secondFlush := secondSame.flush_eq percent interval fun kind => kept kind (untwinned kind) secondSame
    exact firstFlush.symm.trans secondFlush

theorem flush_eq_of_reordered_of_rule :
    ∃ rules : List (Rule Double), Rule.parseAll "* => quick IF below 100" = .ok rules ∧
      let start : Engine Double (StandardFactory Double) (StandardMetric Double) :=
        .new (.withPolicy .resetOnFlush) (.ofSeed 0) (StandardFactory.registry rules) 0
      let engine := (start.run [.timing "glork" 1, .timing "glork.calls" 1]).2
      ∀ first second, engine.Reordered first → engine.Reordered second →
        (first.flush (.ofSeconds 10) 90).1.Perm (second.flush (.ofSeconds 10) 90).1 := by
  obtain ⟨rules, parsed⟩ := exists_parseAll_rule
  refine ⟨rules, parsed, ?_⟩
  intro start engine first second firstSame secondSame
  exact ((flush_eq_of_reordered .resetOnFlush (.ofSeed 0) parsed 0
    [.timing "glork" 1, .timing "glork.calls" 1] (.ofSeconds 10) 90).2 first second firstSame secondSame).1

end Standard

/-- An engine with its timers listed the other way round. -/
def turned (engine : Engine α φ μ) : Engine α φ μ :=
  { engine with timers := ⟨engine.timers.entries.reverse, by
      rw [List.map_reverse, List.nodup_reverse]
      exact engine.timers.keysNodup⟩ }

theorem reordered_turned (engine : Engine α φ μ) : engine.Reordered engine.turned where
  settings := rfl
  chance := rfl
  plugins := rfl
  counters := .refl _
  timers := (List.reverse_perm _).symm
  gauges := rfl
  meters := .refl _
  tags := .refl _
  extensions left right := by
    obtain rfl := Option.some.inj (left.symm.trans right)
    exact .refl _
  received := .refl _
  badLines := rfl
  wallClock := rfl
  stopwatch := rfl

/-- What is reported under a path is what the metrics report there, in their order. -/
theorem filter_path_points [Number α] [MetricFactory φ] [MetricPlugin φ μ α] (engine : Engine α φ μ)
    (seconds : α) (percent timestamp : Nat) (path : String) :
    (FlushKind.all.flatMap fun kind => (engine.segmentOf seconds percent timestamp kind).points).filter
        (fun point => point.path = path) =
      FlushKind.all.flatMap fun kind => (engine.metricReports seconds percent timestamp kind).flatten.filter
        fun point => point.path = path := by
  rw [List.filter_flatMap]
  simp only [points_segmentOf, filter_sortByPath]

/-- Two timers with twin keys are reported in the order in which they are listed. -/
theorem flush_of_twins_ne :
    let start : Engine ℝ (StandardFactory ℝ) (StandardMetric ℝ) :=
      .new .default (.ofSeed 0) (StandardFactory.registry []) 0
    let engine := (start.run [.timing "a" 1, .timing "a." 1, .timing "a." 1]).2
    engine.Reordered engine.turned ∧
      (engine.flush (.ofSeconds 10) 90).1 ≠ (engine.turned.flush (.ofSeconds 10) 90).1 := by
  intro start engine
  refine ⟨engine.reordered_turned, ?_⟩
  let first := (start.newTimer "a").update 1 0
  let second := ((start.newTimer "a.").update 1 0).update 1 0
  have chosen : engine.settings = .default := rfl
  have listed : engine.timers.entries = [("a", first), ("a.", second)] := rfl
  have busy : first.isIdle = false ∧ second.isIdle = false := by simp [Timer.isIdle, first, second]
  have reported (timer : Timer ℝ) (key : String)
      (joined : joinPath (engine.settings.timerPath key) "count" = "stats.timers.a.count") (timestamp : Nat) :
      ((timer.report (engine.settings.timerPath key) 90 timestamp).filter fun point =>
        point.path = "stats.timers.a.count").map Datapoint.value = [(timer.count : ℝ)] := by
    rw [← joined, Timer.filter_report, Timer.filter_statistics_count]
    simp
  intro same
  have turned := engine.reordered_turned
  rw [points_flush_eq, points_flush_eq, turned.wallClock, turned.ofSegments, turned.summary] at same
  have counts := congrArg (fun points => (points.filter fun point =>
    point.path = "stats.timers.a.count").map Datapoint.value) (List.append_cancel_right same)
  rw [filter_path_points, filter_path_points] at counts
  have others {kind : FlushKind} (other : kind ≠ .timer) (seconds : ℝ) (timestamp : Nat) :
      engine.metricReports seconds 90 timestamp kind = [] ∧
        engine.turned.metricReports seconds 90 timestamp kind = [] := by
    cases kind with
    | timer => exact absurd rfl other
    | counter | gauge | meter | plugin => exact ⟨rfl, rfl⟩
  have leftReports (seconds : ℝ) (timestamp : Nat) : engine.metricReports seconds 90 timestamp .timer =
      [first.report (engine.settings.timerPath "a") 90 timestamp,
        second.report (engine.settings.timerPath "a.") 90 timestamp] := by
    simp [metricReports, activeTimers, listed, busy]
  have rightReports (seconds : ℝ) (timestamp : Nat) : engine.turned.metricReports seconds 90 timestamp .timer =
      [second.report (engine.settings.timerPath "a.") 90 timestamp,
        first.report (engine.settings.timerPath "a") 90 timestamp] := by
    simp [metricReports, activeTimers, Engine.turned, listed, busy]
  simp only [FlushKind.all, List.flatMap_cons, List.flatMap_nil, ne_eq, reduceCtorEq, not_false_eq_true,
    others, leftReports, rightReports, List.flatten_nil, List.flatten_cons, List.filter_nil,
    List.nil_append, List.append_nil, List.filter_append, List.map_append] at counts
  rw [reported first "a" (by rw [chosen]; decide), reported second "a." (by rw [chosen]; decide)] at counts
  have counted : first.count = 1 ∧ second.count = 2 := by simp [first, second, newTimer, Timer.new]
  simp [counted] at counts

end Engine

end MetricAggregation
