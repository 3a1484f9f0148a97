import MetricAggregation.Proofs.Engine.Layout
import MetricAggregation.Proofs.Lines
import MetricAggregation.Proofs.UnbrokenNames

/-!
No message, update or rule gets a blank into a path, so whatever an engine is given, the lines of its
reports can be read back.
-/

namespace MetricAggregation.Engine

open Text (Unbroken unbroken_joinPath)

section Updates

variable {α φ μ : Type} [Number α] [MetricFactory φ] [MetricPlugin φ μ α] {engine : Engine α φ μ}

theorem unbroken_of_taken {bytes : List UInt8} {update : Update α}
    (taken : engine.taken? bytes = some update) : Unbroken update.target.2 := by
  obtain ⟨message, _, read, asked, _⟩ := taken?_eq_some_iff.mp taken
  obtain ⟨line, _, parsed⟩ := readMessage_ok_iff.mp read
  rw [Update.target_ofMessage asked]
  exact Message.unbroken_key parsed

theorem unbroken_of_takenAll {update : Update α} (lines : List (List UInt8)) :
    ∀ {engine : Engine α φ μ}, update ∈ engine.takenAll lines → Unbroken update.target.2 := by
  induction lines with
  | nil => exact fun member => nomatch member
  | cons bytes rest ih =>
      intro engine member
      rcases List.mem_append.mp member with now | later
      · exact unbroken_of_taken (Option.mem_toList.mp now)
      · exact ih later

theorem unbroken_of_direct {key : String} {value : α} {update : Update α} {target : String → Update α}
    (kept : ∀ name, (target name).target.2 = name)
    (member : update ∈ (directKey key value).toOption.toList.map target) : Unbroken update.target.2 := by
  obtain ⟨name, valid, rfl⟩ := List.mem_map.mp member
  rw [kept]
  cases directed : directKey key value with
  | error _ => simp [directed, Except.toOption] at valid
  | ok other =>
      simp only [directed, Except.toOption, Option.toList_some, List.mem_singleton] at valid
      exact valid ▸ unbroken_directKey directed

theorem unbroken_of_accepted {step : Step α} {update : Update α} (member : update ∈ engine.accepted step) :
    Unbroken update.target.2 := by
  cases step with
  | message bytes => exact unbroken_of_taken (Option.mem_toList.mp member)
  | packet bytes => exact unbroken_of_takenAll _ member
  | increment key value => exact unbroken_of_direct (fun _ => rfl) member
  | timing key duration => exact unbroken_of_direct (fun _ => rfl) member
  | tick | flush | setWallClock | setStopwatch => cases member

end Updates

section Notes

variable {α : Type} [Number α] {rules : List (Rule α)}
variable {engine : Engine α (StandardFactory α) (StandardMetric α)}

theorem unbroken_of_noteOf (standard : Standard rules engine) {bytes : List UInt8} {tag : String}
    (noted : engine.noteOf bytes = .received tag) : Unbroken tag := by
  by_cases accepted : engine.Accepts bytes
  · obtain ⟨message, updated, read, applied⟩ := id accepted
    rw [noteOf_of_accepts read accepted, Note.received.injEq] at noted
    rw [← noted]
    exact Fields.unbroken_tag ((apply_standard_ok_iff standard message).mp ⟨updated, applied⟩)
  · rw [noteOf_of_refused accepted] at noted
    cases noted

theorem unbroken_of_notesOf {tag : String} (lines : List (List UInt8)) :
    ∀ {engine : Engine α (StandardFactory α) (StandardMetric α)}, Standard rules engine →
      .received tag ∈ engine.notesOf lines → Unbroken tag := by
  induction lines with
  | nil => exact fun _ member => nomatch member
  | cons bytes rest ih =>
      intro engine standard member
      rcases List.mem_cons.mp member with now | later
      · exact unbroken_of_noteOf standard now.symm
      · exact ih (standard_process standard bytes) later

theorem unbroken_of_noted (standard : Standard rules engine) {step : Step α} {tag : String}
    (member : .received tag ∈ engine.notes step) : Unbroken tag := by
  have direct (key : Except MessageError String) : .received tag ∉ noteOfKey key := by
    cases key with
    | ok _ => exact List.not_mem_nil
    | error _ => simp [noteOfKey]
  cases step with
  | message bytes => exact unbroken_of_noteOf standard (List.mem_singleton.mp member).symm
  | packet bytes => exact unbroken_of_notesOf _ standard member
  | increment key value => exact absurd member (direct _)
  | timing key duration => exact absurd member (direct _)
  | tick | flush | setWallClock | setStopwatch => cases member

end Notes

section Runs

variable {α : Type} [Number α] {settings : Settings} {rules : List (Rule α)}
variable {engine : Engine α (StandardFactory α) (StandardMetric α)}

/-- No name that gets into a path has blanks. -/
structure NamesUnbroken (settings : Settings) (rules : List (Rule α))
    (engine : Engine α (StandardFactory α) (StandardMetric α)) : Prop where
  settings : engine.settings = settings
  standard : Standard rules engine
  labelled : engine.AllExtensions (StandardFactory.registry rules) StandardMetric.Labelled
  keys (kind : MetricKind) (key : String) : engine.Has kind key → Unbroken key
  tags (tag : String) : (engine.receivedCount tag).isSome → Unbroken tag

omit [Number α] in
theorem namesUnbroken_new (settings : Settings) (chance : Chance α) (rules : List (Rule α)) (now : α) :
    NamesUnbroken settings rules (.new settings chance (StandardFactory.registry rules) now) where
  settings := rfl
  standard := standard_new settings chance rules now
  labelled := allExtensions_new settings chance _ now _
  keys kind key has := by
    cases kind with
    | gauge => exact absurd rfl has
    | counter | timer | meter | extension => cases has
  tags tag counted := by cases counted

theorem NamesUnbroken.step (labels : LabelsUnbroken rules) (unbroken : NamesUnbroken settings rules engine)
    (step : Step α) : NamesUnbroken settings rules (engine.step step).2 where
  settings := (invariant_settings settings).step step unbroken.settings
  standard := invariant_standard.step step unbroken.standard
  labelled := (StandardMetric.lasting_labelled labels).invariant.step step unbroken.labelled
  keys kind key has := by
    rcases has_or_accepted_of_step has with before | ⟨update, accepted, target⟩
    · exact unbroken.keys kind key before
    · have name := unbroken_of_accepted accepted
      rwa [target] at name
  tags tag counted := by
    -- A flush clears the statistics, and any other step only adds the tags that it notes.
    by_cases flushed : ∃ interval percent, step = .flush interval percent
    · obtain ⟨interval, percent, rfl⟩ := flushed
      cases counted
    · rw [(engine.records_step step fun interval percent same => flushed ⟨interval, percent, same⟩).received,
        raised] at counted
      split at counted
      · exact unbroken.tags tag counted
      · rename_i some_
        exact unbroken_of_noted unbroken.standard (List.count_pos_iff.mp (Nat.pos_of_ne_zero some_))

theorem NamesUnbroken.run (labels : LabelsUnbroken rules) (steps : List (Step α)) :
    ∀ {engine : Engine α (StandardFactory α) (StandardMetric α)}, NamesUnbroken settings rules engine →
      NamesUnbroken settings rules (engine.run steps).2 := by
  induction steps with
  | nil => exact id
  | cons first rest ih => exact fun unbroken => ih (unbroken.step labels first)

end Runs

section Paths

variable {α : Type} [Number α] {settings : Settings} {rules : List (Rule α)}
variable {engine : Engine α (StandardFactory α) (StandardMetric α)}

structure StemsUnbroken (settings : Settings) : Prop where
  stats : Unbroken settings.statsStem
  counts : Unbroken settings.countStem
  internal : Unbroken settings.internalStem

theorem unbroken_timerStatistics (timer : Timer α) (percent : Nat) (now : α) :
    ∀ entry ∈ timer.statistics percent now, Unbroken entry.1 := by
  rintro ⟨name, value⟩ member
  have fixed : ∀ name ∈ ["count", "max", "mean", "min", "rate", "stddev", "median", "75percentile",
      "95percentile", "98percentile", "99percentile", "999percentile"], Unbroken name := by decide
  rcases List.mem_append.mp member with plain | scored
  · apply fixed
    simp only [List.mem_cons, Prod.mk.injEq, List.not_mem_nil, or_false] at plain
    rcases plain with ⟨rfl, _⟩ | ⟨rfl, _⟩ | ⟨rfl, _⟩ | ⟨rfl, _⟩ | ⟨rfl, _⟩ | ⟨rfl, _⟩ <;> simp
  · have label := (List.of_mem_zip scored).1
    rcases List.mem_cons.mp label with rfl | known
    · exact .append (by decide) (Text.unbroken_toString percent)
    · apply fixed
      simp only [Timer.quantiles, List.map_cons, List.map_nil] at known
      exact List.mem_append_right ["count", "max", "mean", "min", "rate", "stddev"] known

theorem NamesUnbroken.factoryName (unbroken : NamesUnbroken settings rules engine) {tag : String}
    (known : tag = "pd" ∨ tag = "sli") : Unbroken (engine.factoryName tag) := by
  rw [Engine.factoryName, unbroken.standard.1, StandardFactory.find?_registry]
  rcases known with rfl | rfl
  · change Unbroken "pdistinct"
    decide
  · change Unbroken "SLI"
    decide

theorem NamesUnbroken.flushExtension (unbroken : NamesUnbroken settings rules engine)
    (stem : Unbroken settings.statsStem) {tag key : String} {metric : StandardMetric α}
    (found : engine.extension? tag key = some metric) (seconds : α) (timestamp : Nat) :
    ∀ point ∈ (engine.flushExtension seconds timestamp tag key metric).value.1, Unbroken point.path := by
  have under := unbroken.standard.2 tag key metric found
  have address : Unbroken (engine.settings.address (engine.factoryName tag) key).path := by
    rw [unbroken.settings]
    have name := unbroken.factoryName (under.imp And.left And.left)
    have keyUnbroken := unbroken.keys (.extension tag) key (Option.isSome_of_eq_some found)
    exact unbroken_joinPath (unbroken_joinPath stem name) keyUnbroken
  intro point member
  rcases under with ⟨rfl, distinct, rfl⟩ | ⟨rfl, indicator, rfl⟩
  · obtain ⟨entry, statistic, rfl⟩ := List.mem_map.mp member
    apply unbroken_joinPath address
    have all : ∀ name ∈ ["count", "count_1day", "count_1hour", "count_1min"], Unbroken name := by decide
    apply all
    exact List.mem_map_of_mem (f := Prod.fst) statistic
  · obtain ⟨entry, statistic, rfl⟩ := List.mem_map.mp (List.mem_mergeSort.mp member)
    apply unbroken_joinPath address
    simp only [Indicator.statistics, List.cons_append, List.mem_cons, List.mem_append, List.mem_map,
      List.not_mem_nil, or_false] at statistic
    rcases statistic with rfl | ⟨condition, given, rfl⟩ | rfl
    · change Unbroken "count"
      decide
    · have label := unbroken.labelled.2 "sli" key _ found indicator rfl condition given
      exact .append (by decide) label
    · change Unbroken "error"
      decide

theorem NamesUnbroken.metricReports (unbroken : NamesUnbroken settings rules engine)
    (stems : StemsUnbroken settings) (seconds : α) (percent timestamp : Nat) (kind : FlushKind) :
    ∀ point ∈ (engine.metricReports seconds percent timestamp kind).flatten, Unbroken point.path := by
  intro point member
  obtain ⟨report, reported, inReport⟩ := List.mem_flatten.mp member
  have chosen := unbroken.settings
  subst chosen
  cases kind with
  | counter =>
      obtain ⟨⟨key, counter⟩, entry, rfl⟩ := List.mem_map.mp reported
      have keyUnbroken := unbroken.keys .counter key (Table.isSome_find?_of_mem entry)
      simp only [Counter.report, List.mem_cons, List.not_mem_nil, or_false] at inReport
      rcases inReport with rfl | rfl
      · exact unbroken_joinPath stems.stats keyUnbroken
      · exact unbroken_joinPath stems.counts keyUnbroken
  | timer =>
      obtain ⟨⟨key, timer⟩, busy, rfl⟩ := List.mem_map.mp reported
      have entry := (List.mem_filter.mp busy).1
      have keyUnbroken := unbroken.keys .timer key (Table.isSome_find?_of_mem entry)
      obtain ⟨statistic, given, rfl⟩ := List.mem_map.mp (List.mem_mergeSort.mp inReport)
      have stem : Unbroken (engine.settings.timerPath key) :=
        unbroken_joinPath (unbroken_joinPath stems.stats (by decide)) keyUnbroken
      exact unbroken_joinPath stem (unbroken_timerStatistics timer percent _ statistic given)
  | gauge =>
      obtain ⟨⟨key, value⟩, entry, rfl⟩ := List.mem_map.mp reported
      obtain rfl := List.mem_singleton.mp inReport
      have waiting : engine.gauges.valuesOf key ≠ [] :=
        List.ne_nil_of_mem (List.mem_map_of_mem (List.mem_filter.mpr ⟨entry, decide_eq_true rfl⟩))
      have stem : Unbroken engine.settings.gaugeStem := unbroken_joinPath stems.stats (by decide)
      exact (unbroken_joinPath stem (unbroken.keys .gauge key waiting)).append (by decide)
  | meter =>
      obtain ⟨⟨key, meter⟩, entry, rfl⟩ := List.mem_map.mp reported
      have keyUnbroken := unbroken.keys .meter key (Table.isSome_find?_of_mem entry)
      obtain ⟨statistic, given, rfl⟩ := List.mem_map.mp inReport
      have stem : Unbroken (engine.settings.meterPath key) :=
        unbroken_joinPath (unbroken_joinPath stems.stats (by decide)) keyUnbroken
      apply unbroken_joinPath stem
      have all : ∀ name ∈ ["15min_rate", "1min_rate", "5min_rate", "count", "mean_rate"],
          Unbroken name := by decide
      apply all
      exact List.mem_map_of_mem (f := Prod.fst) given
  | plugin =>
      obtain ⟨⟨tag, key, metric⟩, entry, rfl⟩ := List.mem_map.mp reported
      exact unbroken.flushExtension stems.stats (mem_furtherMetrics_iff.mp entry) seconds timestamp
        point inReport

theorem NamesUnbroken.summary (unbroken : NamesUnbroken settings rules engine)
    (stem : Unbroken settings.internalStem) {stats : FlushStats} {timestamp : Nat} {point : Datapoint α}
    (member : point ∈ engine.summary stats timestamp) : Unbroken point.path := by
  rw [← unbroken.settings] at stem
  obtain ⟨_, path⟩ := engine.mem_summary_cases timestamp member
  rcases path with path | ⟨name, suffix, origin, known, path⟩
  · rw [path]
    exact unbroken_joinPath stem (by decide)
  · have nameUnbroken : Unbroken name := by
      rcases origin with ⟨kind, rfl⟩ | ⟨tag, counted, rfl⟩
      · have kindUnbroken : Unbroken kind.name := by cases kind <;> decide
        exact .append (by decide) kindUnbroken
      · exact .append (by decide) (unbroken.tags tag counted)
    have all : ∀ suffix ∈ [".count", ".duration"], Unbroken suffix := by decide
    rw [path]
    exact (unbroken_joinPath stem nameUnbroken).append (all suffix known)

theorem NamesUnbroken.flush (unbroken : NamesUnbroken settings rules engine)
    (stems : StemsUnbroken settings) (interval : Duration) (percent : Nat) :
    ∀ point ∈ (engine.flush interval percent).1, Unbroken point.path := by
  intro point member
  rcases engine.mem_flush_cases percent member with ⟨kind, reported⟩ | ⟨stats, inSummary⟩
  · exact unbroken.metricReports stems _ percent _ kind point reported
  · exact unbroken.summary stems.internal inSummary

theorem exists_flush_of_mem_run {φ μ : Type} [MetricFactory φ] [MetricPlugin φ μ α] (steps : List (Step α)) :
    ∀ {engine : Engine α φ μ} {points : List (Datapoint α)}, points ∈ (engine.run steps).1 →
      ∃ before interval percent, points = ((engine.run before).2.flush interval percent).1 := by
  induction steps with
  | nil => exact fun member => nomatch member
  | cons first rest ih =>
      intro engine points member
      rcases List.mem_append.mp member with now | later
      · cases first with
        | flush interval percent =>
            obtain rfl := List.mem_singleton.mp now
            exact ⟨[], interval, percent, rfl⟩
        | message | packet | increment | timing | tick | setWallClock | setStopwatch => cases now
      · obtain ⟨before, interval, percent, rfl⟩ := ih later
        exact ⟨first :: before, interval, percent, rfl⟩

end Paths

section Reports

variable {α : Type} [Number α] [UnbrokenNumber α] {start : Engine α (StandardFactory α) (StandardMetric α)}

/-- An engine with the standard metric types that is set up with stems that can be keys, and with any rules
that are accepted, reports only paths without blanks, whatever it is given. When a report is written, with
any length of payloads, and the payloads are split at the ends of lines and at spaces, the fields are the
paths, the values and the times of the datapoints that could be written, in their order. -/
theorem report_reads_back (setup : Setup (StandardFactory α)) (chance : Chance α) (now : α)
    (standard : setup.plugins = StandardFactory.all α)
    (stems : ∀ stem ∈ [setup.settings.statsStem, setup.settings.countStem, setup.settings.internalStem],
      ∀ char ∈ stem.toList, Key.isAllowed char)
    (ready : setup.engine chance now = .ok start) (steps : List (Step α)) (maxLength : Nat)
    (points : List (Datapoint α)) (reported : points ∈ (start.run steps).1) :
    (∀ point ∈ points, ∀ char ∈ point.path.toList, Text.isBlank char = false) ∧
      ∃ lines : List (List UInt8),
        (joined (PayloadWriter.payloadsOf maxLength points)).data.toList.splitOn Text.lineEnd =
            lines ++ [[]] ∧
          lines.map (List.splitOn Text.space) =
            (points.filter (Datapoint.fits maxLength)).map Datapoint.fields := by
  rw [setup.engine_standard standard] at ready
  cases configured : (IndicatorFactory.empty : IndicatorFactory α).configure setup.options with
  | error _ =>
      rw [configured] at ready
      cases ready
  | ok factory =>
      rw [configured, Except.ok.injEq] at ready
      subst ready
      have labels := IndicatorFactory.labelsUnbroken_configure configured
      have plain : StemsUnbroken setup.settings := by
        refine ⟨?_, ?_, ?_⟩
        · exact Text.unbroken_of_isAllowed (stems _ (by simp))
        · exact Text.unbroken_of_isAllowed (stems _ (by simp))
        · exact Text.unbroken_of_isAllowed (stems _ (by simp))
      obtain ⟨before, interval, percent, rfl⟩ := exists_flush_of_mem_run steps reported
      have unbroken := (namesUnbroken_new setup.settings chance factory.rules now).run labels before
      have paths := unbroken.flush plain interval percent
      refine ⟨paths, PayloadWriter.splitOn_payloadsOf maxLength _ ?_⟩
      exact fun point member => ⟨paths point member, UnbrokenNumber.unbroken_text point.value⟩

/-- A key that looks like the end of a line and the next one does not become one. -/
theorem report_reads_back_of_brokenKey :
    let setup : Setup (StandardFactory Double) := { plugins := StandardFactory.all Double }
    let start : Engine Double (StandardFactory Double) (StandardMetric Double) :=
      .new .default (.ofSeed 0) (StandardFactory.registry []) 0
    let update : Step Double := .increment "glork 1 0\nfoo" 1
    let points := ((start.step update).2.flush (.ofSeconds 10) 90).1
    setup.plugins = StandardFactory.all Double ∧
      (∀ stem ∈ [setup.settings.statsStem, setup.settings.countStem, setup.settings.internalStem],
        ∀ char ∈ stem.toList, Key.isAllowed char) ∧
      setup.engine (.ofSeed 0) 0 = .ok start ∧
      points ∈ (start.run [update, .flush (.ofSeconds 10) 90]).1 ∧
      (∀ point ∈ points, ∀ char ∈ point.path.toList, Text.isBlank char = false) ∧
      ∃ lines : List (List UInt8),
        (joined (PayloadWriter.payloadsOf 512 points)).data.toList.splitOn Text.lineEnd = lines ++ [[]] ∧
          lines.map (List.splitOn Text.space) = (points.filter (Datapoint.fits 512)).map Datapoint.fields := by
  intro setup start update points
  have stems : ∀ stem ∈ [setup.settings.statsStem, setup.settings.countStem, setup.settings.internalStem],
      ∀ char ∈ stem.toList, Key.isAllowed char := by
    have all : ∀ stem ∈ ["stats", "stats_counts", "statsd"], stem.toList.all Key.isAllowed = true := by
      decide
    exact fun stem member => List.all_eq_true.mp (all stem member)
  have ready : setup.engine (.ofSeed 0) 0 = .ok start := by
    rw [setup.engine_standard rfl]
    rfl
  have reported : points ∈ (start.run [update, .flush (.ofSeconds 10) 90]).1 := List.mem_singleton.mpr rfl
  exact ⟨rfl, stems, ready, reported,
    report_reads_back setup (.ofSeed 0) 0 rfl stems ready _ 512 points reported⟩

end Reports

end MetricAggregation.Engine
