import Mathlib
import MetricAggregation.Proofs.Engine.Balance
import MetricAggregation.Proofs.ExactNumber
import MetricAggregation.Proofs.Indicator
import MetricAggregation.Proofs.Timer

/-!
Nothing is lost and nothing is reported twice: what the flushes of a run report of a metric and what waits
at its end are together what was accepted in it.
-/

namespace MetricAggregation

namespace Update

variable {α : Type}

/-- What an update adds to the counter of a key. -/
def countFor [Number α] (key : String) : Update α → α
  | count name value rate => if name = key then value * (1 / rate) else 0
  | _ => 0

def isDurationFor (key : String) (update : Update α) : Bool := update.target = (.timer, key)

def gaugeFor (key : String) : Update α → List α
  | gauge name value => if name = key then [value] else []
  | _ => []

/-- Whether an update brings fields of some sort to the service level indicator of a key. -/
def isCountedFor (counted : Fields → Bool) (key : String) : Update α → Bool
  | further tag name fields => tag = "sli" && name = key && counted fields
  | _ => false

def isMeasurementFor (key : String) (update : Update α) : Bool := update.isCountedFor (fun _ => true) key

/-- Whether an update is a measurement of an operation that failed, for the indicator of a key. -/
def isFailureFor (key : String) (update : Update α) : Bool :=
  update.isCountedFor (fun fields => fields.value = Indicator.errorValue) key

end Update

namespace Engine

section Accounts

variable {α φ μ : Type} [ExactNumber α] [MetricFactory φ] [MetricPlugin φ μ α]

omit [MetricFactory φ] [MetricPlugin φ μ α] in
theorem counters_updateCounter (engine : Engine α φ μ) (key : String) (value rate : α) :
    (engine.updateCounter key value rate).counters.find? key =
      some (((engine.counters.find? key).getD .zero).update value rate) := by
  rw [updateCounter, Table.find?_upsert, if_pos rfl]

theorem counter_balanced (key : String) :
    Balanced (φ := φ) (μ := μ) .counter key (fun _ => True)
      (fun counter : Option (Counter α) => (counter.map Counter.value).getD 0) (Update.countFor key)
      fun points => (reportedOf ⟨.counter, key, "count"⟩ points).sum where
  invariant := .trivial
  unticked := nofun
  others := by
    intro update other
    cases update with
    | count name value rate =>
        have miss : name ≠ key := by
          rintro rfl
          exact other rfl
        exact if_neg miss
    | duration | gauge | events | further => rfl
  takes := by
    intro engine after update _ takes own
    cases takes with
    | count name value rate =>
        cases own
        change ((Table.find? _ key).map Counter.value).getD 0 =
          ((engine.counters.find? key).map Counter.value).getD 0 + _
        rw [counters_updateCounter, Update.countFor, if_pos rfl]
        cases engine.counters.find? key with
        | none => rfl
        | some counter => rfl
    | duration | gauge | events | further => cases own
  flush := by
    intro engine interval percent _
    change (reportedOf _ _).sum + ((Table.find? (engine.counters.map _) key).map Counter.value).getD 0 =
      ((engine.counters.find? key).map Counter.value).getD 0
    rw [reportedOf_counter, Table.find?_map]
    cases engine.counters.find? key with
    | none => simp
    | some counter => simp [Counter.zero]

omit [MetricFactory φ] [MetricPlugin φ μ α] in
theorem timers_updateTimer (engine : Engine α φ μ) (key : String) (duration : α) :
    (engine.updateTimer key duration).timers.find? key =
      some (((engine.timers.find? key).getD (engine.newTimer key)).update duration engine.wallClock) := by
  rw [updateTimer, Table.find?_upsert, if_pos rfl]

theorem timer_balanced (key : String) :
    Balanced (φ := φ) (μ := μ) .timer key (fun _ => True)
      (fun timer : Option (Timer α) => (((timer.map Timer.count).getD 0 : Nat) : α))
      (fun update => if update.isDurationFor key then 1 else 0)
      fun points => (reportedOf ⟨.timer, key, "count"⟩ points).sum where
  invariant := .trivial
  unticked := nofun
  others := by
    intro update other
    exact if_neg (by simpa [Update.isDurationFor] using other)
  takes := by
    intro engine after update _ takes own
    rw [if_pos (by simpa [Update.isDurationFor] using own)]
    cases takes with
    | duration name value =>
        cases own
        change ((((Table.find? _ key).map Timer.count).getD 0 : Nat) : α) =
          (((engine.timers.find? key).map Timer.count).getD 0 : Nat) + 1
        rw [timers_updateTimer]
        cases engine.timers.find? key with
        | none => simp [newTimer, Timer.new]
        | some timer => simp
    | count | gauge | events | further => cases own
  flush := by
    intro engine interval percent _
    change (reportedOf _ _).sum + (((Table.find? (engine.timers.map _) key).map Timer.count).getD 0 : Nat) =
      ((((engine.timers.find? key).map Timer.count).getD 0 : Nat) : α)
    rw [reportedOf_timer, Table.find?_map]
    cases engine.timers.find? key with
    | none => simp
    | some timer =>
        by_cases idle : timer.isIdle
        · simp [idle, Option.filter]
        · simp [idle, Option.filter, Timer.filter_statistics_count, Timer.flushed]

theorem gauge_balanced (key : String) :
    Balanced (φ := φ) (μ := μ) .gauge key (fun _ => True)
      (fun values : List α => FreeAddMonoid.ofList values)
      (fun update => FreeAddMonoid.ofList (update.gaugeFor key))
      fun points => FreeAddMonoid.ofList (reportedOf ⟨.gauge, key, "value"⟩ points) where
  invariant := .trivial
  unticked := nofun
  others := by
    intro update other
    cases update with
    | gauge name value =>
        have miss : name ≠ key := by
          rintro rfl
          exact other rfl
        rw [Update.gaugeFor, if_neg miss]
        rfl
    | count | duration | events | further => rfl
  takes := by
    intro engine after update _ takes own
    cases takes with
    | gauge name value =>
        cases own
        change FreeAddMonoid.ofList ((engine.gauges.push key value).valuesOf key) = _
        rw [valuesOf_push, Update.gaugeFor]
        rfl
    | count | duration | events | further => cases own
  flush := by
    intro engine interval percent _
    rw [reportedOf_gauge]
    exact add_zero _

end Accounts

section Indicators

variable {α ψ ν : Type} [ExactNumber α] [MetricFactory ψ] [MetricPlugin ψ ν α]
variable {settings : Settings} {plugins : Registry (ψ ⊕ IndicatorFactory α)}

def IndicatorUnder (tag : String) (metric : ν ⊕ Indicator α) : Prop :=
  tag = "sli" → ∃ indicator, metric = .inr indicator

omit [MetricFactory ψ] in
theorem indicatorUnder_lasting {factory : IndicatorFactory α}
    (registered : plugins.find? "sli" = some (.inr factory)) :
    Lasting (α := α) plugins (IndicatorUnder (ν := ν)) where
  build := by
    rintro tag other address now boxes found rfl
    rw [registered, Option.some.injEq] at found
    subst found
    exact ⟨_, rfl⟩
  process := by
    rintro tag metric changed now fields processed under rfl
    obtain ⟨indicator, rfl⟩ := under rfl
    obtain ⟨after, _, rfl⟩ := Except.map_eq_ok_iff.mp processed
    exact ⟨after, rfl⟩
  flush := by
    rintro tag metric address now seconds timestamp under rfl
    obtain ⟨indicator, rfl⟩ := under rfl
    exact ⟨_, rfl⟩

/-- A tally of a metric that may be there and may be an indicator. -/
def tallyOf (tally : Indicator α → Nat) (metric : Option (ν ⊕ Indicator α)) : Nat :=
  ((metric.bind Sum.getRight?).map tally).getD 0

def indicatorPath (settings : Settings) (key name : String) : String :=
  joinPath (settings.address "SLI" key).path name

/-- A tally of an indicator that measurements raise and flushes report and clear. -/
structure Tallied (tally : Indicator α → Nat) (name : String) (counted : Fields → Bool) : Prop where
  built (conditions : Conditions α) : tally (.ofConditions conditions) = 0
  processed {indicator changed : Indicator α} {fields : Fields} :
    indicator.process fields = .ok changed →
      tally changed = tally indicator + if counted fields then 1 else 0
  reported (indicator : Indicator α) :
    indicator.statistics.filter (fun entry => entry.1 = name) = [(name, tally indicator)]
  flushed (indicator : Indicator α) : tally indicator.flushed = 0

theorem tallied_count : Tallied (α := α) Indicator.count "count" fun _ => true where
  built _ := rfl
  processed := by
    intro indicator changed fields processed
    rcases Indicator.process_cases processed with ⟨_, rfl⟩ | ⟨_, value, size, rfl⟩
    · rfl
    · rfl
  reported := Indicator.filter_statistics_count
  flushed _ := rfl

theorem tallied_errors :
    Tallied (α := α) Indicator.errors "error" fun fields => fields.value = Indicator.errorValue where
  built _ := rfl
  processed := by
    intro indicator changed fields processed
    rcases Indicator.process_cases processed with ⟨failed, rfl⟩ | ⟨worked, value, size, rfl⟩
    · simp [failed, Indicator.updateError]
    · simp [worked, Indicator.update]
  reported := Indicator.filter_statistics_error
  flushed _ := rfl

omit [MetricFactory ψ] in
theorem tallyOf_extensionFor {tally : Indicator α → Nat} {name : String} {counted : Fields → Bool}
    (tallied : Tallied tally name counted) {factory : IndicatorFactory α}
    {engine : Engine α (ψ ⊕ IndicatorFactory α) (ν ⊕ Indicator α)}
    (registered : engine.plugins.find? "sli" = some (.inr factory)) {key : String}
    {indicator : Indicator α} [MetricFactory ψ]
    (found : engine.extensionFor "sli" key = .ok (.inr indicator)) :
    tallyOf tally (engine.extension? "sli" key) = tally indicator := by
  rcases extensionFor_cases found with present | ⟨absent, other, known, built⟩
  · rw [present]
    rfl
  · rw [registered, Option.some.injEq] at known
    subst known
    rw [Sum.inr.inj built, absent]
    exact (tallied.built _).symm

theorem reportedOf_indicator (engine : Engine α (ψ ⊕ IndicatorFactory α) (ν ⊕ Indicator α))
    (interval : Duration) (percent : Nat) {key : String} {indicator : Indicator α}
    (present : engine.extension? "sli" key = some (.inr indicator))
    (address : engine.factoryName "sli" = "SLI") (name : String) :
    reportedOf ⟨.extension "sli", key, indicatorPath engine.settings key name⟩
        (engine.attributedFlush interval percent) =
      (indicator.statistics.filter fun entry => entry.1 = name).map fun entry => (entry.2 : α) := by
  rw [reportedOf_extension, present, Option.toList_some, List.flatMap_singleton]
  simp only [flushExtension, address]
  exact indicator.filter_report _ name _

theorem indicator_balanced {tally : Indicator α → Nat} {name : String} {counted : Fields → Bool}
    (tallied : Tallied tally name counted) {factory : IndicatorFactory α}
    (registered : plugins.find? "sli" = some (.inr factory)) (key : String) :
    Balanced (φ := ψ ⊕ IndicatorFactory α) (μ := ν ⊕ Indicator α) (.extension "sli") key
      (fun engine => engine.settings = settings ∧ engine.AllExtensions plugins IndicatorUnder)
      (fun metric : Option (ν ⊕ Indicator α) => (tallyOf tally metric : α))
      (fun update => if update.isCountedFor counted key then 1 else 0)
      fun points => (reportedOf ⟨.extension "sli", key, indicatorPath settings key name⟩ points).sum where
  invariant := (invariant_settings settings).and (indicatorUnder_lasting registered).invariant
  unticked := nofun
  others := by
    intro update other
    apply if_neg
    cases update with
    | further tag name fields =>
        intro counts
        simp only [Update.isCountedFor, Bool.and_eq_true, decide_eq_true_eq] at counts
        obtain ⟨⟨rfl, rfl⟩, _⟩ := counts
        exact other rfl
    | count | duration | gauge | events => simp [Update.isCountedFor]
  takes := by
    rintro engine after update ⟨_, all⟩ takes own
    cases takes with
    | @further tag name fields metric changed found processed =>
        cases own
        obtain ⟨indicator, rfl⟩ := (indicatorUnder_lasting registered).extensionFor all found rfl
        obtain ⟨result, accepted, rfl⟩ := Except.map_eq_ok_iff.mp processed
        have known : engine.plugins.find? "sli" = some (.inr factory) := by rw [all.1, registered]
        have before := tallyOf_extensionFor tallied known found
        change (tallyOf tally ((engine.putExtension "sli" key _).extension? "sli" key) : α) =
          tallyOf tally (engine.extension? "sli" key) + _
        rw [extension?_putExtension, if_pos ⟨rfl, rfl⟩, before]
        change (tally result : α) = _
        rw [tallied.processed accepted]
        simp [Update.isCountedFor]
    | count | duration | gauge | events => cases own
  flush := by
    rintro engine interval percent ⟨rfl, all⟩
    change (reportedOf _ _).sum +
      (tallyOf tally ((engine.flush interval percent).2.extension? "sli" key) : α) =
        tallyOf tally (engine.extension? "sli" key)
    rw [extension?_flush]
    cases present : engine.extension? "sli" key with
    | none =>
        rw [reportedOf_extension, present]
        simp [tallyOf]
    | some metric =>
        obtain ⟨indicator, rfl⟩ := all.2 "sli" key metric present rfl
        have address : engine.factoryName "sli" = "SLI" := by
          rw [factoryName, all.1, registered]
          rfl
        have cleared : tallyOf tally (some (.inr indicator.flushed : ν ⊕ Indicator α)) = 0 :=
          tallied.flushed indicator
        rw [engine.reportedOf_indicator interval percent present address, tallied.reported]
        change _ + (tallyOf tally (some (.inr indicator.flushed : ν ⊕ Indicator α)) : α) = tally indicator
        simp [cleared]

end Indicators

section Runs

variable {α ψ ν : Type} [ExactNumber α] [MetricFactory ψ] [MetricPlugin ψ ν α]

def pendingCount {φ μ : Type} (engine : Engine α φ μ) (key : String) : α :=
  ((engine.counters.find? key).map Counter.value).getD 0

def pendingDurations {φ μ : Type} (engine : Engine α φ μ) (key : String) : Nat :=
  ((engine.timers.find? key).map Timer.count).getD 0

theorem sum_map_ite_eq_countP (counts : Update α → Bool) (updates : List (Update α)) :
    (updates.map fun update => if counts update then (1 : α) else 0).sum = updates.countP counts := by
  induction updates with
  | nil => simp
  | cons update rest ih =>
      by_cases counted : counts update
      · simp [counted, ih, add_comm]
      · simp [counted, ih]

theorem sum_reported (origin : Origin) (reports : List (List (Attributed α))) :
    (reports.flatMap (reportedOf origin)).sum =
      (reports.map fun points => (reportedOf origin points).sum).sum := by
  rw [List.flatMap, List.sum_flatten, List.map_map]
  rfl

omit [ExactNumber α] in
theorem sum_map_ofList {β : Type} (entries : List β) (values : β → List α) :
    (entries.map fun entry => FreeAddMonoid.ofList (values entry)).sum =
      FreeAddMonoid.ofList (entries.flatMap values) := by
  rw [List.flatMap, FreeAddMonoid.ofList_flatten, List.map_map]
  rfl

/-- In every run, what the flushes report of a metric and what waits in it at the end are all that was
accepted for it: counted values add up, durations, measurements and failures are each counted once, and
the values of a gauge come in the order of arrival. -/
theorem reported_add_pending_eq_accepted (settings : Settings) (chance : Chance α)
    (plugins : Registry (ψ ⊕ IndicatorFactory α)) (now : α) (steps : List (Step α)) (key : String) :
    let start : Engine α (ψ ⊕ IndicatorFactory α) (ν ⊕ Indicator α) := .new settings chance plugins now
    let final := (start.run steps).2
    let reports := start.attributedReports steps
    let accepted := start.acceptedIn steps
    let reported (kind : MetricKind) (statistic : String) : List α :=
      reports.flatMap (reportedOf ⟨kind, key, statistic⟩)
    reports.map (List.map Attributed.point) = (start.run steps).1 ∧
      (∀ points ∈ reports, Placed settings points) ∧
      (reported .counter "count").sum + final.pendingCount key =
        (accepted.map (Update.countFor key)).sum ∧
      (reported .timer "count").sum + final.pendingDurations key =
        (accepted.countP (Update.isDurationFor key) : α) ∧
      reported .gauge "value" ++ final.gauges.valuesOf key = accepted.flatMap (Update.gaugeFor key) ∧
      ∀ factory, plugins.find? "sli" = some (.inr factory) →
        (reported (.extension "sli") (indicatorPath settings key "count")).sum +
            tallyOf Indicator.count (final.extension? "sli" key) =
          (accepted.countP (Update.isMeasurementFor key) : α) ∧
        (reported (.extension "sli") (indicatorPath settings key "error")).sum +
            tallyOf Indicator.errors (final.extension? "sli" key) =
          (accepted.countP (Update.isFailureFor key) : α) := by
  intro start final reports accepted reported
  refine ⟨map_point_attributedReports steps start, placed_attributedReports settings steps start rfl,
    ?_, ?_, ?_, ?_⟩
  · rw [sum_reported]
    exact (counter_balanced key).run_of_nothing steps start trivial rfl
  · rw [sum_reported, ← sum_map_ite_eq_countP]
    exact (timer_balanced key).run_of_nothing steps start trivial Nat.cast_zero
  · have account := (gauge_balanced key).run_of_nothing steps start trivial rfl
    rw [sum_map_ofList, sum_map_ofList] at account
    exact FreeAddMonoid.ofList.injective ((FreeAddMonoid.ofList_append _ _).trans account)
  · intro factory registered
    have fresh : start.settings = settings ∧ start.AllExtensions plugins IndicatorUnder :=
      ⟨rfl, allExtensions_new settings chance plugins now _⟩
    rw [sum_reported, sum_reported, ← sum_map_ite_eq_countP, ← sum_map_ite_eq_countP]
    exact ⟨(indicator_balanced tallied_count registered key).run_of_nothing steps start fresh Nat.cast_zero,
      (indicator_balanced tallied_errors registered key).run_of_nothing steps start fresh Nat.cast_zero⟩

theorem reported_add_pending_of_failure :
    let plugins : Registry (Empty ⊕ IndicatorFactory ℝ) := ⟨Table.empty.insert "sli" (.inr .empty)⟩
    let start : Engine ℝ (Empty ⊕ IndicatorFactory ℝ) (Empty ⊕ Indicator ℝ) :=
      .new .default (.ofSeed 0) plugins 0
    let steps : List (Step ℝ) :=
      [.message "glork:error|sli".toUTF8.toList, .flush (.ofSeconds 10) 90]
    plugins.find? "sli" = some (.inr .empty) ∧
      ((start.attributedReports steps).flatMap
          (reportedOf ⟨.extension "sli", "glork", indicatorPath .default "glork" "error"⟩)).sum +
        (tallyOf Indicator.errors ((start.run steps).2.extension? "sli" "glork") : ℝ) = 1 := by
  intro plugins start steps
  have registered : plugins.find? "sli" = some (.inr .empty) := rfl
  have read : readMessage "glork:error|sli".toUTF8.toList = .ok ⟨"glork", "error", "sli", none⟩ := by
    cbv
  have taken : start.taken? "glork:error|sli".toUTF8.toList =
      some (.further "sli" "glork" ⟨"error", "sli", none⟩) :=
    taken?_eq_some_iff.mpr ⟨_, _, read, rfl, .further rfl rfl⟩
  have accepted : start.acceptedIn steps = [.further "sli" "glork" ⟨"error", "sli", none⟩] := by
    simp only [steps, acceptedIn, Engine.accepted, taken]
    rfl
  refine ⟨registered, ?_⟩
  obtain ⟨_, _, _, _, _, indicators⟩ :=
    reported_add_pending_eq_accepted .default (.ofSeed 0) plugins 0 steps "glork"
  have failures := (indicators .empty registered).2
  refine failures.trans ?_
  change ((start.acceptedIn steps).countP _ : ℝ) = 1
  rw [accepted]
  norm_num [Update.isFailureFor, Update.isCountedFor, Indicator.errorValue]
end Runs

end Engine

end MetricAggregation
