import MetricAggregation.Double.Number
import MetricAggregation.Proofs.Engine.MetricPoints

/-!
Which datapoints of a flush share a path. It can be read off their origins: but for the values of a gauge,
the keys of two metrics have to be such that one spells out a path of the other, or differ by just a point
at the end.
-/

namespace MetricAggregation.Engine

section Standard

variable {α : Type} [Number α] {policy : ReservoirPolicy} {rules : List (Rule α)}
variable {engine : Engine α (StandardFactory α) (StandardMetric α)}

theorem internal_summary (chosen : engine.settings = .withPolicy policy) {stats : FlushStats} {timestamp : Nat}
    {point : Datapoint α} (member : point ∈ engine.summary stats timestamp) :
    ∃ rest, point.path = "statsd." ++ rest := by
  have stem (name : String) : joinPath engine.settings.internalStem name = "statsd." ++ name := by
    rw [chosen]
    exact joinPath_eq "statsd" name
  rcases (engine.mem_summary_cases timestamp member).2 with path | ⟨name, suffix, _, _, path⟩
  · exact ⟨_, path.trans (stem _)⟩
  · rw [stem, String.append_assoc] at path
    exact ⟨_, path⟩

theorem Ruled.path_eq (ruled : Ruled (.withPolicy policy) rules engine) {interval : Duration} {percent : Nat}
    {entry : Attributed α} {origin : Origin} (member : entry ∈ engine.attributedFlush interval percent)
    (own : entry.origin = some origin) : entry.point.path = origin.path .default := by
  rw [engine.placed_attributedFlush interval percent entry member origin own, ruled.chosen]
  rfl

/-- Two datapoints of a flush share a path just if their origins say so. -/
theorem Ruled.pairwise_shares (ruled : Ruled (.withPolicy policy) rules engine) (words : LabelsWords rules)
    (interval : Duration) (percent : Nat) :
    (engine.attributedFlush interval percent).Pairwise fun left right =>
      left.point.path = right.point.path ↔
        ∃ one other, left.origin = some one ∧ right.origin = some other ∧ one.Shares other := by
  have regular {entry : Attributed α} (member : entry ∈ engine.metricPoints interval percent) :
      ∃ origin, entry.origin = some origin ∧ origin.Regular := by
    obtain ⟨kind, _, ofKind⟩ := List.mem_flatMap.mp member
    obtain ⟨origin, own, regular, _⟩ := ruled.mem_kindPoints words _ _ _ ofKind
    exact ⟨origin, own, regular⟩
  have once := (ruled.onceEach words interval percent).pairwise
  have path {entry : Attributed α} {origin : Origin} (member : entry ∈ engine.metricPoints interval percent)
      (own : entry.origin = some origin) : entry.point.path = origin.path .default :=
    ruled.path_eq (mem_attributedFlush member) own
  rw [attributedFlush_eq] at once ⊢
  refine List.pairwise_append.mpr ⟨?_, ?_, ?_⟩
  · refine (List.pairwise_append.mp once).1.imp_of_mem ?_
    intro left right leftMember rightMember single
    obtain ⟨one, leftOrigin, first⟩ := regular leftMember
    obtain ⟨other, rightOrigin, second⟩ := regular rightMember
    rw [path leftMember leftOrigin, path rightMember rightOrigin]
    constructor
    · intro same
      have apart (equal : one = other) : one.kind = .gauge := single one leftOrigin (equal ▸ rightOrigin)
      exact ⟨one, other, leftOrigin, rightOrigin, Origin.shares_of_path_eq first second apart same⟩
    · rintro ⟨_, _, leftSame, rightSame, shares⟩
      obtain rfl := Option.some.inj (leftOrigin.symm.trans leftSame)
      obtain rfl := Option.some.inj (rightOrigin.symm.trans rightSame)
      exact Origin.path_eq_of_shares shares
  · rw [List.pairwise_map]
    have distinct := engine.nodup_path_summary (engine.flushStats interval percent) (Number.floorNat engine.wallClock)
    refine (List.pairwise_map.mp distinct).imp ?_
    intro left right different
    refine iff_of_false different ?_
    rintro ⟨_, _, none, _⟩
    cases none
  · intro left leftMember right rightMember
    obtain ⟨one, leftOrigin, first⟩ := regular leftMember
    obtain ⟨point, inSummary, rfl⟩ := List.mem_map.mp rightMember
    obtain ⟨rest, internal⟩ := internal_summary ruled.chosen inSummary
    rw [path leftMember leftOrigin, internal]
    refine iff_of_false (Origin.path_ne_of_internal first rest) ?_
    rintro ⟨_, _, _, none, _⟩
    cases none

/-- In every state that an engine with the standard metric types and the default stems can reach, with rules
that have been read, two datapoints of a flush share a path just if they are values of one gauge, the same
statistic of two metrics with twin keys, or the rate of a counter whose key spells out the path of another
metric, and that metric's statistic. -/
theorem path_eq_iff_shares (policy : ReservoirPolicy) (chance : Chance α) {text : String} {rules : List (Rule α)}
    (parsed : Rule.parseAll text = .ok rules) (now : α) (steps : List (Step α)) (interval : Duration)
    (percent : Nat) :
    let settings := Settings.withPolicy policy
    let start : Engine α (StandardFactory α) (StandardMetric α) :=
      .new settings chance (StandardFactory.registry rules) now
    let engine := (start.run steps).2
    let points := engine.attributedFlush interval percent
    points.map Attributed.point = (engine.flush interval percent).1 ∧ Placed settings points ∧
      points.Pairwise fun left right =>
        left.point.path = right.point.path ↔
          ∃ one other, left.origin = some one ∧ right.origin = some other ∧ one.Shares other := by
  intro settings start engine points
  have ruled : Ruled settings rules engine := invariant_ruled.run steps (ruled_new settings chance rules now)
  have words : LabelsWords rules := Rule.isWord_label_parseAll parsed
  refine ⟨engine.map_point_attributedFlush interval percent, ?_, ruled.pairwise_shares words interval percent⟩
  rw [← ruled.chosen]
  exact engine.placed_attributedFlush interval percent

end Standard

theorem exists_parseAll_rule :
    ∃ rules : List (Rule Double), Rule.parseAll "* => quick IF below 100" = .ok rules := by
  have readable : (Rule.parseAll "* => quick IF below 100" : Except ConfigError (List (Rule Double))).isOk := by
    decide +kernel
  exact Except.isOk_iff.mp readable

theorem path_eq_iff_shares_of_rule :
    ∃ rules : List (Rule Double), Rule.parseAll "* => quick IF below 100" = .ok rules ∧
      let start : Engine Double (StandardFactory Double) (StandardMetric Double) :=
        .new (.withPolicy .resetOnFlush) (.ofSeed 0) (StandardFactory.registry rules) 0
      let engine := (start.run [.timing "glork" 1, .increment "timers.glork.count" 1]).2
      (engine.attributedFlush (.ofSeconds 10) 90).Pairwise fun left right =>
        left.point.path = right.point.path ↔
          ∃ one other, left.origin = some one ∧ right.origin = some other ∧ one.Shares other := by
  obtain ⟨rules, parsed⟩ := exists_parseAll_rule
  exact ⟨rules, parsed, (path_eq_iff_shares .resetOnFlush (.ofSeed 0) parsed 0
    [.timing "glork" 1, .increment "timers.glork.count" 1] (.ofSeconds 10) 90).2.2⟩

/-- A counter and a timer of different keys share a path. -/
theorem path_of_timer_spelled_by_counter :
    let start : Engine Double (StandardFactory Double) (StandardMetric Double) :=
      .new .default (.ofSeed 0) (StandardFactory.registry []) 0
    let engine := (start.run [.timing "glork" 1, .increment "timers.glork.count" 1]).2
    let points := engine.attributedFlush (.ofSeconds 10) 90
    ∃ left ∈ points, ∃ right ∈ points, left.point.path = right.point.path ∧
      left.origin = some ⟨.counter, "timers.glork.count", "rate"⟩ ∧
      right.origin = some ⟨.timer, "glork", "count"⟩ := by
  intro start engine points
  have ruled : Ruled (.withPolicy .resetOnFlush) [] engine :=
    invariant_ruled.run _ (ruled_new _ (.ofSeed 0) [] 0)
  have words : LabelsWords ([] : List (Rule Double)) := fun rule member => nomatch member
  have known : engine.Has .counter "timers.glork.count" := rfl
  have busy : engine.Reports .timer "glork" := ⟨_, rfl, rfl⟩
  obtain ⟨rate, rateMember, rateOrigin⟩ := engine.rate_mem_kindPoints
    ((Duration.ofSeconds 10).seconds Double) 90 (Number.floorNat engine.wallClock) known
  obtain ⟨count, countMember, countOrigin⟩ := ruled.count_mem_kindPoints words
    ((Duration.ofSeconds 10).seconds Double) 90 (Number.floorNat engine.wallClock) rfl busy
  have rateInFlush := mem_attributedFlush (mem_metricPoints rateMember)
  have countInFlush := mem_attributedFlush (mem_metricPoints countMember)
  have same : rate.point.path = count.point.path := by
    rw [ruled.path_eq rateInFlush rateOrigin, ruled.path_eq countInFlush countOrigin, Origin.path_rate,
      Origin.path_named rfl]
    decide
  exact ⟨rate, rateInFlush, count, countInFlush, same, rateOrigin, countOrigin⟩

end MetricAggregation.Engine
