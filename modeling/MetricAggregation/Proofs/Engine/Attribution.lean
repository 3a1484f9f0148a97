import MetricAggregation.Proofs.Datapoint
import MetricAggregation.Proofs.Engine.Update
import MetricAggregation.Proofs.Table

/-!
Flushes whose datapoints say which metric they are about. Keys may be chosen so that two metrics report
under one path, so a path does not tell. Without the origins, an attributed flush is a flush.
-/

namespace MetricAggregation

/-- A metric and one of its statistics. Metrics of further types have paths for statistics. -/
structure Origin where
  kind : MetricKind
  key : String
  statistic : String
deriving DecidableEq

def Origin.path (settings : Settings) (origin : Origin) : String :=
  match origin.kind with
  | .counter =>
    if origin.statistic = "rate" then settings.ratePath origin.key else settings.countPath origin.key
  | .timer => joinPath (settings.timerPath origin.key) origin.statistic
  | .gauge => GaugeQueue.path settings.gaugeStem origin.key
  | .meter => joinPath (settings.meterPath origin.key) origin.statistic
  | .extension _ => origin.statistic

/-- A datapoint, with its origin unless it is about the engine itself. -/
structure Attributed (α : Type) where
  origin : Option Origin
  point : Datapoint α

variable {α : Type}

/-- Every datapoint stands under the path of its origin. -/
def Placed (settings : Settings) (points : List (Attributed α)) : Prop :=
  ∀ entry ∈ points, ∀ origin, entry.origin = some origin → entry.point.path = origin.path settings

/-- Sorts datapoints by path, as `sortByPath` does. -/
def sortAttributed (points : List (Attributed α)) : List (Attributed α) :=
  points.mergeSort fun left right => decide (left.point.path ≤ right.point.path)

/-- The values that are reported for a statistic, in the order of the datapoints. -/
def reportedOf (origin : Origin) (points : List (Attributed α)) : List α :=
  (points.filter fun entry => entry.origin = some origin).map fun entry => entry.point.value

def attributedStatistics [Number α] (kind : MetricKind) (key path : String) (timestamp : Nat)
    (statistics : List (String × α)) : List (Attributed α) :=
  statistics.map fun entry =>
    ⟨some ⟨kind, key, entry.1⟩, joinPath path entry.1, Number.roundToMicro entry.2, timestamp⟩

namespace Engine

variable {φ μ : Type} [Number α]

def counterPoints (engine : Engine α φ μ) (seconds : α) (timestamp : Nat) : List (Attributed α) :=
  sortAttributed <| engine.counters.entries.flatMap fun (key, counter) =>
    [⟨some ⟨.counter, key, "rate"⟩, engine.settings.ratePath key, counter.rate seconds, timestamp⟩,
      ⟨some ⟨.counter, key, "count"⟩, engine.settings.countPath key, counter.value, timestamp⟩]

def timerPoints (engine : Engine α φ μ) (percent timestamp : Nat) : List (Attributed α) :=
  sortAttributed <| engine.busyTimers.flatMap fun (key, timer) =>
    sortAttributed <| attributedStatistics .timer key (engine.settings.timerPath key) timestamp
      (timer.statistics percent (timestamp : α))

def gaugePoints (engine : Engine α φ μ) (timestamp : Nat) : List (Attributed α) :=
  sortAttributed <| engine.gauges.pending.toList.map fun entry =>
    ⟨some ⟨.gauge, entry.1, "value"⟩,
      GaugeQueue.path engine.settings.gaugeStem entry.1, entry.2, timestamp⟩

def meterPoints (engine : Engine α φ μ) (timestamp : Nat) : List (Attributed α) :=
  sortAttributed <| engine.meters.entries.flatMap fun (key, meter) =>
    attributedStatistics .meter key (engine.settings.meterPath key) timestamp
      (meter.statistics engine.wallClock)

omit [Number α] in
def extensionPoints (reports : ExtensionReports α μ) : List (Attributed α) :=
  sortAttributed <| reports.entries.flatMap fun (tag, metrics) =>
    metrics.entries.flatMap fun (key, report) =>
      report.value.1.map fun point => ⟨some ⟨.extension tag, key, point.path⟩, point⟩

variable [MetricFactory φ] [MetricPlugin φ μ α]

def attributedFlush (engine : Engine α φ μ) (interval : Duration) (percent : Nat) :
    List (Attributed α) :=
  let timestamp := Number.floorNat engine.wallClock
  let seconds := interval.seconds α
  let extensions := engine.flushExtensions seconds timestamp
  let segments := engine.segments extensions seconds percent timestamp
  engine.counterPoints seconds timestamp ++ engine.timerPoints percent timestamp ++
    engine.gaugePoints timestamp ++ engine.meterPoints timestamp ++ extensionPoints extensions ++
    (engine.summary (.ofSegments engine.stopwatch segments) timestamp).map fun point => ⟨none, point⟩

def attributedReport (engine : Engine α φ μ) : Step α → Option (List (Attributed α))
  | .flush interval percent => some (engine.attributedFlush interval percent)
  | _ => none

/-- What the flushes of a run report, with the origins. -/
def attributedReports (engine : Engine α φ μ) : List (Step α) → List (List (Attributed α))
  | [] => []
  | first :: rest =>
    (engine.attributedReport first).toList ++ (engine.step first).2.attributedReports rest

end Engine

theorem map_point_sortAttributed (points : List (Attributed α)) :
    (sortAttributed points).map Attributed.point = sortByPath (points.map Attributed.point) :=
  List.map_mergeSort fun _ _ _ _ => rfl

namespace Engine

variable {φ μ : Type} [Number α]

theorem map_point_counterPoints (engine : Engine α φ μ) (seconds : α) (timestamp : Nat) :
    (engine.counterPoints seconds timestamp).map Attributed.point =
      (engine.counterSegment seconds timestamp).points := by
  rw [counterPoints, map_point_sortAttributed, List.map_flatMap]
  rfl

theorem map_point_timerPoints (engine : Engine α φ μ) (percent timestamp : Nat) :
    (engine.timerPoints percent timestamp).map Attributed.point =
      (engine.timerSegment percent timestamp).points := by
  rw [timerPoints, map_point_sortAttributed, List.map_flatMap]
  simp only [map_point_sortAttributed, attributedStatistics, List.map_map]
  rfl

omit [Number α] in
theorem map_point_gaugePoints (engine : Engine α φ μ) (timestamp : Nat) :
    (engine.gaugePoints timestamp).map Attributed.point = (engine.gaugeSegment timestamp).points := by
  rw [gaugePoints, map_point_sortAttributed, List.map_map]
  rfl

theorem map_point_meterPoints (engine : Engine α φ μ) (timestamp : Nat) :
    (engine.meterPoints timestamp).map Attributed.point = (engine.meterSegment timestamp).points := by
  rw [meterPoints, map_point_sortAttributed, List.map_flatMap]
  simp only [attributedStatistics, List.map_map]
  rfl

omit [Number α] in
theorem map_point_extensionPoints (reports : ExtensionReports α μ) :
    (extensionPoints reports).map Attributed.point = reports.segment.points := by
  rw [extensionPoints, map_point_sortAttributed, List.map_flatMap]
  simp only [List.map_flatMap, List.map_map, Function.comp_def, List.map_id']
  simp only [ExtensionReports.segment, Table.values, List.flatMap_map, List.flatMap_assoc]

variable [MetricFactory φ] [MetricPlugin φ μ α]

theorem map_point_attributedFlush (engine : Engine α φ μ) (interval : Duration) (percent : Nat) :
    (engine.attributedFlush interval percent).map Attributed.point =
      (engine.flush interval percent).1 := by
  simp only [attributedFlush, List.map_append, map_point_counterPoints, map_point_timerPoints,
    map_point_gaugePoints, map_point_meterPoints, map_point_extensionPoints, List.map_map,
    Function.comp_def, List.map_id', flush, segments, List.flatMap_cons, List.flatMap_nil,
    List.append_nil, List.append_assoc]

theorem map_point_attributedReport (engine : Engine α φ μ) (step : Step α) :
    (engine.attributedReport step).map (List.map Attributed.point) = (engine.step step).1 := by
  cases step with
  | flush interval percent => exact congrArg some (engine.map_point_attributedFlush interval percent)
  | message | packet | increment | timing | tick | setWallClock | setStopwatch => rfl

/-- Without the origins, the attributed reports of a run are its reports. -/
theorem map_point_attributedReports (steps : List (Step α)) : ∀ engine : Engine α φ μ,
    (engine.attributedReports steps).map (List.map Attributed.point) = (engine.run steps).1 := by
  induction steps with
  | nil => exact fun _ => rfl
  | cons first rest ih =>
      intro engine
      simp only [attributedReports, run, List.map_append, ← Option.toList_map,
        map_point_attributedReport, ih]

end Engine

section Reported

variable {origin : Origin} {settings : Settings}

theorem reportedOf_append (left right : List (Attributed α)) :
    reportedOf origin (left ++ right) = reportedOf origin left ++ reportedOf origin right := by
  simp only [reportedOf, List.filter_append, List.map_append]

theorem reportedOf_flatMap {β : Type} (entries : List β) (points : β → List (Attributed α)) :
    reportedOf origin (entries.flatMap points) =
      entries.flatMap fun entry => reportedOf origin (points entry) := by
  simp only [reportedOf, List.filter_flatMap, List.map_flatMap]

theorem reportedOf_eq_nil {points : List (Attributed α)}
    (absent : ∀ entry ∈ points, entry.origin ≠ some origin) : reportedOf origin points = [] := by
  rw [reportedOf, List.map_eq_nil_iff, List.filter_eq_nil_iff]
  intro entry member
  simpa using absent entry member

theorem reportedOf_attributedStatistics [Number α] (kind : MetricKind) (key path : String)
    (timestamp : Nat) (statistics : List (String × α)) (statistic : String) :
    reportedOf ⟨kind, key, statistic⟩ (attributedStatistics kind key path timestamp statistics) =
      (statistics.filter fun entry => entry.1 = statistic).map
        fun entry => Number.roundToMicro entry.2 := by
  simp [reportedOf, attributedStatistics, List.filter_map, Function.comp_def]

theorem mem_sortAttributed {points : List (Attributed α)} {entry : Attributed α} :
    entry ∈ sortAttributed points ↔ entry ∈ points :=
  List.mem_mergeSort

theorem placed_sortAttributed {points : List (Attributed α)} :
    Placed settings (sortAttributed points) ↔ Placed settings points := by
  simp only [Placed, mem_sortAttributed]

theorem Placed.append {left right : List (Attributed α)} (first : Placed settings left)
    (second : Placed settings right) : Placed settings (left ++ right) := by
  intro entry member
  exact (List.mem_append.mp member).elim (first entry) (second entry)

theorem Placed.flatMap {β : Type} {entries : List β} {points : β → List (Attributed α)}
    (placed : ∀ entry, Placed settings (points entry)) : Placed settings (entries.flatMap points) := by
  intro entry member
  obtain ⟨source, _, found⟩ := List.mem_flatMap.mp member
  exact placed source entry found

theorem Placed.map {β : Type} {entries : List β} {attributed : β → Attributed α}
    (placed : ∀ entry origin, (attributed entry).origin = some origin →
      (attributed entry).point.path = origin.path settings) :
    Placed settings (entries.map attributed) := by
  intro entry member
  obtain ⟨source, _, rfl⟩ := List.mem_map.mp member
  exact placed source

/-- Sorting by path keeps the order of the values of a statistic, since they share a path. -/
theorem reportedOf_sortAttributed {points : List (Attributed α)}
    (placed : Placed settings (sortAttributed points)) :
    reportedOf origin (sortAttributed points) = reportedOf origin points := by
  unfold reportedOf
  apply congrArg
  apply filter_mergeSort_of_shared
  intro left leftMember right rightMember leftOrigin rightOrigin
  rw [placed left (mem_sortAttributed.mpr leftMember) origin (of_decide_eq_true leftOrigin),
    placed right (mem_sortAttributed.mpr rightMember) origin (of_decide_eq_true rightOrigin)]

end Reported

namespace Engine

variable {φ μ : Type} [Number α] {origin : Origin}

theorem placed_attributedStatistics (kind : MetricKind) (settings : Settings) (key path : String)
    (timestamp : Nat) (statistics : List (String × α))
    (located : ∀ statistic, Origin.path settings ⟨kind, key, statistic⟩ = joinPath path statistic) :
    Placed settings (attributedStatistics kind key path timestamp statistics) := by
  apply Placed.map
  rintro entry origin found
  cases found
  exact (located entry.1).symm

theorem placed_counterPoints (engine : Engine α φ μ) (seconds : α) (timestamp : Nat) :
    Placed engine.settings (engine.counterPoints seconds timestamp) := by
  apply placed_sortAttributed.mpr
  apply Placed.flatMap
  rintro ⟨key, counter⟩ entry member origin found
  simp only [List.mem_cons, List.not_mem_nil, or_false] at member
  rcases member with rfl | rfl
  · cases found
    rfl
  · cases found
    rfl

theorem placed_timerPoints (engine : Engine α φ μ) (percent timestamp : Nat) :
    Placed engine.settings (engine.timerPoints percent timestamp) := by
  apply placed_sortAttributed.mpr
  apply Placed.flatMap
  rintro ⟨key, timer⟩
  apply placed_sortAttributed.mpr
  exact placed_attributedStatistics .timer _ key _ _ _ fun _ => rfl

omit [Number α] in
theorem placed_gaugePoints (engine : Engine α φ μ) (timestamp : Nat) :
    Placed engine.settings (engine.gaugePoints timestamp) := by
  apply placed_sortAttributed.mpr
  apply Placed.map
  rintro entry origin found
  cases found
  rfl

theorem placed_meterPoints (engine : Engine α φ μ) (timestamp : Nat) :
    Placed engine.settings (engine.meterPoints timestamp) := by
  apply placed_sortAttributed.mpr
  apply Placed.flatMap
  rintro ⟨key, meter⟩
  exact placed_attributedStatistics .meter _ key _ _ _ fun _ => rfl

omit [Number α] in
theorem placed_extensionPoints (settings : Settings) (reports : ExtensionReports α μ) :
    Placed settings (extensionPoints reports) := by
  apply placed_sortAttributed.mpr
  apply Placed.flatMap
  rintro ⟨tag, metrics⟩
  apply Placed.flatMap
  rintro ⟨key, report⟩
  apply Placed.map
  rintro point origin found
  cases found
  rfl

theorem reportedOf_counterPoints_other (engine : Engine α φ μ) (seconds : α) (timestamp : Nat)
    (other : origin.kind ≠ .counter) : reportedOf origin (engine.counterPoints seconds timestamp) = [] := by
  apply reportedOf_eq_nil
  intro entry member found
  simp only [counterPoints, mem_sortAttributed, List.mem_flatMap, List.mem_cons, List.not_mem_nil,
    or_false] at member
  obtain ⟨_, _, rfl | rfl⟩ := member
  · cases found
    exact other rfl
  · cases found
    exact other rfl

theorem reportedOf_timerPoints_other (engine : Engine α φ μ) (percent timestamp : Nat)
    (other : origin.kind ≠ .timer) : reportedOf origin (engine.timerPoints percent timestamp) = [] := by
  apply reportedOf_eq_nil
  intro entry member found
  simp only [timerPoints, attributedStatistics, mem_sortAttributed, List.mem_flatMap,
    List.mem_map] at member
  obtain ⟨_, _, _, _, rfl⟩ := member
  cases found
  exact other rfl

omit [Number α] in
theorem reportedOf_gaugePoints_other (engine : Engine α φ μ) (timestamp : Nat)
    (other : origin.kind ≠ .gauge) : reportedOf origin (engine.gaugePoints timestamp) = [] := by
  apply reportedOf_eq_nil
  intro entry member found
  simp only [gaugePoints, mem_sortAttributed, List.mem_map] at member
  obtain ⟨_, _, rfl⟩ := member
  cases found
  exact other rfl

theorem reportedOf_meterPoints_other (engine : Engine α φ μ) (timestamp : Nat)
    (other : origin.kind ≠ .meter) : reportedOf origin (engine.meterPoints timestamp) = [] := by
  apply reportedOf_eq_nil
  intro entry member found
  simp only [meterPoints, attributedStatistics, mem_sortAttributed, List.mem_flatMap,
    List.mem_map] at member
  obtain ⟨_, _, _, _, rfl⟩ := member
  cases found
  exact other rfl

omit [Number α] in
theorem reportedOf_extensionPoints_other (reports : ExtensionReports α μ)
    (other : ∀ tag, origin.kind ≠ .extension tag) : reportedOf origin (extensionPoints reports) = [] := by
  apply reportedOf_eq_nil
  intro entry member found
  simp only [extensionPoints, mem_sortAttributed, List.mem_flatMap, List.mem_map] at member
  obtain ⟨_, _, _, _, _, _, rfl⟩ := member
  cases found
  exact other _ rfl

variable [MetricFactory φ] [MetricPlugin φ μ α]

/-- Origins are true to the paths of the datapoints. -/
theorem placed_attributedFlush (engine : Engine α φ μ) (interval : Duration) (percent : Nat) :
    Placed engine.settings (engine.attributedFlush interval percent) := by
  have summary (points : List (Datapoint α)) :
      Placed engine.settings (points.map fun point => ⟨none, point⟩) := by
    apply Placed.map
    rintro point origin found
    cases found
  exact (((((engine.placed_counterPoints _ _).append (engine.placed_timerPoints _ _)).append
    (engine.placed_gaugePoints _)).append (engine.placed_meterPoints _)).append
    (placed_extensionPoints _ _)).append (summary _)

theorem placed_attributedReports (settings : Settings) (steps : List (Step α)) :
    ∀ engine : Engine α φ μ, engine.settings = settings →
      ∀ points ∈ engine.attributedReports steps, Placed settings points := by
  induction steps with
  | nil => simp [attributedReports]
  | cons first rest ih =>
      intro engine same points member
      rcases List.mem_append.mp member with now | later
      · cases first with
        | flush interval percent =>
            obtain rfl := List.mem_singleton.mp now
            exact same ▸ engine.placed_attributedFlush interval percent
        | message | packet | increment | timing | tick | setWallClock | setStopwatch => simp [attributedReport] at now
      · exact ih _ ((invariant_settings settings).step first same) points later

theorem reportedOf_attributedFlush (engine : Engine α φ μ) (interval : Duration) (percent : Nat)
    (origin : Origin) :
    reportedOf origin (engine.attributedFlush interval percent) =
      let timestamp := Number.floorNat engine.wallClock
      let seconds := interval.seconds α
      match origin.kind with
      | .counter => reportedOf origin (engine.counterPoints seconds timestamp)
      | .timer => reportedOf origin (engine.timerPoints percent timestamp)
      | .gauge => reportedOf origin (engine.gaugePoints timestamp)
      | .meter => reportedOf origin (engine.meterPoints timestamp)
      | .extension _ => reportedOf origin (extensionPoints (engine.flushExtensions seconds timestamp)) := by
  have summary (points : List (Datapoint α)) :
      reportedOf origin (points.map fun point => ⟨none, point⟩) = [] := by
    apply reportedOf_eq_nil
    intro entry member found
    obtain ⟨_, _, rfl⟩ := List.mem_map.mp member
    cases found
  obtain ⟨kind, key, statistic⟩ := origin
  simp only [attributedFlush, reportedOf_append, summary, List.append_nil]
  cases kind with
  | counter | timer | gauge | meter | extension =>
      simp [reportedOf_counterPoints_other, reportedOf_timerPoints_other, reportedOf_gaugePoints_other,
        reportedOf_meterPoints_other, reportedOf_extensionPoints_other]

theorem reportedOf_counter_statistic (engine : Engine α φ μ) (interval : Duration) (percent : Nat)
    (key statistic : String) :
    reportedOf ⟨.counter, key, statistic⟩ (engine.attributedFlush interval percent) =
      (engine.counters.find? key).toList.flatMap fun counter =>
        ([("rate", counter.rate (interval.seconds α)), ("count", counter.value)].filter
          fun entry => entry.1 = statistic).map Prod.snd := by
  rw [reportedOf_attributedFlush]
  simp only [counterPoints]
  rw [reportedOf_sortAttributed (engine.placed_counterPoints _ _), reportedOf_flatMap,
    Table.flatMap_entries_eq engine.counters key]
  · cases engine.counters.find? key with
    | none => rfl
    | some counter =>
        by_cases rate : "rate" = statistic
        · simp [reportedOf, ← rate]
        · by_cases count : "count" = statistic
          · simp [reportedOf, ← count]
          · simp [reportedOf, rate, count]
  · rintro ⟨name, counter⟩ miss
    apply reportedOf_eq_nil
    simp [miss]

theorem reportedOf_counter (engine : Engine α φ μ) (interval : Duration) (percent : Nat) (key : String) :
    reportedOf ⟨.counter, key, "count"⟩ (engine.attributedFlush interval percent) =
      ((engine.counters.find? key).map Counter.value).toList := by
  rw [reportedOf_counter_statistic]
  cases engine.counters.find? key with
  | none => rfl
  | some counter => simp

theorem reportedOf_timer (engine : Engine α φ μ) (interval : Duration) (percent : Nat)
    (key statistic : String) :
    reportedOf ⟨.timer, key, statistic⟩ (engine.attributedFlush interval percent) =
      ((engine.timers.find? key).filter fun timer => !timer.isIdle).toList.flatMap fun timer =>
        ((timer.statistics percent (Number.floorNat engine.wallClock : α)).filter
          fun entry => entry.1 = statistic).map fun entry => Number.roundToMicro entry.2 := by
  have placed (name : String) (timer : Timer α) :
      Placed engine.settings (sortAttributed (attributedStatistics .timer name
        (engine.settings.timerPath name) (Number.floorNat engine.wallClock)
        (timer.statistics percent (Number.floorNat engine.wallClock : α)))) :=
    placed_sortAttributed.mpr (placed_attributedStatistics .timer _ name _ _ _ fun _ => rfl)
  rw [reportedOf_attributedFlush]
  simp only [timerPoints]
  rw [reportedOf_sortAttributed (engine.placed_timerPoints _ _), busyTimers, Table.flatMap_filter,
    reportedOf_flatMap, Table.flatMap_entries_eq engine.timers key]
  · cases engine.timers.find? key with
    | none => rfl
    | some timer =>
        by_cases idle : timer.isIdle
        · simp [idle, reportedOf]
        · simp [idle, Option.filter, reportedOf_sortAttributed (placed key timer),
            reportedOf_attributedStatistics]
  · rintro ⟨name, timer⟩ miss
    apply reportedOf_eq_nil
    intro entry member found
    split at member
    · simp only [mem_sortAttributed, attributedStatistics, List.mem_map] at member
      obtain ⟨_, _, rfl⟩ := member
      cases found
      exact miss rfl
    · simp at member

theorem reportedOf_gauge (engine : Engine α φ μ) (interval : Duration) (percent : Nat) (key : String) :
    reportedOf ⟨.gauge, key, "value"⟩ (engine.attributedFlush interval percent) =
      engine.gauges.valuesOf key := by
  rw [reportedOf_attributedFlush]
  simp only [gaugePoints]
  rw [reportedOf_sortAttributed (engine.placed_gaugePoints _)]
  simp [reportedOf, GaugeQueue.valuesOf, List.filter_map, Function.comp_def]

theorem reportedOf_meter (engine : Engine α φ μ) (interval : Duration) (percent : Nat)
    (key statistic : String) :
    reportedOf ⟨.meter, key, statistic⟩ (engine.attributedFlush interval percent) =
      (engine.meters.find? key).toList.flatMap fun meter =>
        ((meter.statistics engine.wallClock).filter fun entry => entry.1 = statistic).map
          fun entry => Number.roundToMicro entry.2 := by
  rw [reportedOf_attributedFlush]
  simp only [meterPoints]
  rw [reportedOf_sortAttributed (engine.placed_meterPoints _), reportedOf_flatMap,
    Table.flatMap_entries_eq engine.meters key]
  · cases engine.meters.find? key with
    | none => rfl
    | some meter => simp [reportedOf_attributedStatistics]
  · rintro ⟨name, meter⟩ miss
    apply reportedOf_eq_nil
    intro entry member found
    obtain ⟨_, _, rfl⟩ := List.mem_map.mp member
    cases found
    exact miss rfl

theorem reportedOf_extension (engine : Engine α φ μ) (interval : Duration) (percent : Nat)
    (tag key path : String) :
    reportedOf ⟨.extension tag, key, path⟩ (engine.attributedFlush interval percent) =
      (engine.extension? tag key).toList.flatMap fun metric =>
        ((engine.flushExtension (interval.seconds α) (Number.floorNat engine.wallClock) tag key
          metric).value.1.filter fun point => point.path = path).map Datapoint.value := by
  rw [reportedOf_attributedFlush]
  simp only [extensionPoints]
  rw [reportedOf_sortAttributed (placed_extensionPoints engine.settings _), reportedOf_flatMap,
    Table.flatMap_entries_eq (engine.flushExtensions _ _) tag, flushExtensions, Table.find?_mapKeyed,
    extension?]
  · cases engine.extensions.find? tag with
    | none => rfl
    | some metrics =>
        simp only [Option.map_some, Option.getD_some, Option.bind_some]
        rw [reportedOf_flatMap, Table.flatMap_entries_eq _ key, Table.find?_mapKeyed]
        · cases metrics.find? key with
          | none => rfl
          | some metric => simp [reportedOf, List.filter_map, Function.comp_def]
        · rintro ⟨name, report⟩ miss
          apply reportedOf_eq_nil
          simp [miss]
  · rintro ⟨name, metrics⟩ miss
    apply reportedOf_eq_nil
    simp only [List.mem_flatMap, List.mem_map]
    rintro _ ⟨_, _, _, _, rfl⟩ found
    cases found
    exact miss rfl

end Engine

end MetricAggregation
