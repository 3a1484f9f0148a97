import MetricAggregation.Proofs.Engine.Alike
import MetricAggregation.Proofs.Engine.Conservation
import MetricAggregation.Proofs.Engine.Interleaving

/-!
A flush forgets the interval that it ends. Whatever engines with the standard metric types have taken in
before, if their timers are cleared by flushes and they know the same metrics, the same messages after it
make them look alike to the next flush.
-/

namespace MetricAggregation

theorem eq_of_isSome_iff {β : Type} {left right : Option β} {value : β} (same : left.isSome ↔ right.isSome)
    (leftOnly : ∀ found, left = some found → found = value)
    (rightOnly : ∀ found, right = some found → found = value) : left = right := by
  cases left with
  | none =>
      cases right with
      | none => rfl
      | some found => simp at same
  | some found =>
      cases right with
      | none => simp at same
      | some other => rw [leftOnly found rfl, rightOnly other rfl]

/-- What is taken in with an update: a duration, whichever key it is for, and nothing of any other. -/
def Intake.take {α : Type} [Number α] (intake : Intake α) : Update α → Intake α
  | .duration _ value => intake.add value
  | _ => intake

namespace Engine

section Runs

variable {α φ μ : Type} [Number α] [MetricFactory φ] [MetricPlugin φ μ α]

theorem invariant_clearingTimers :
    Invariant fun engine : Engine α φ μ => engine.settings.policy = .resetOnFlush ∧ engine.ClearingTimers where
  bare := by
    rintro left right same ⟨policy, clearing⟩
    have timers : right.timers = left.timers := congrArg (fun engine => engine.timers) same
    refine ⟨(invariant_settings left.settings).bare same rfl ▸ policy, ?_⟩
    intro key timer found
    exact clearing key timer (timers ▸ found)
  takes := by
    rintro engine after update takes ⟨policy, clearing⟩
    cases takes with
    | count | gauge | events | further => exact ⟨policy, clearing⟩
    | duration name value =>
        refine ⟨policy, ?_⟩
        intro key timer found
        change (engine.timers.upsert name _).find? key = some timer at found
        rw [Table.find?_upsert] at found
        split at found
        · obtain rfl := Option.some.inj found
          apply Timer.Clearing.update
          cases present : engine.timers.find? name with
          | none =>
              rw [Option.getD_none, newTimer, policy]
              exact Timer.clearing_new _ _
          | some old => exact clearing name old present
        · exact clearing key timer found
  tick := id
  flush := by
    rintro engine interval percent ⟨policy, clearing⟩
    refine ⟨policy, ?_⟩
    intro key timer found
    change (engine.timers.map _).find? key = some timer at found
    rw [Table.find?_map, Option.map_eq_some_iff] at found
    obtain ⟨old, present, rfl⟩ := found
    split
    · exact clearing key old present
    · exact ((clearing key old present).flushed _ _).1
  setWallClock := fun _ => id

omit [MetricFactory φ] [MetricPlugin φ μ α] in
theorem clearingTimers_new (settings : Settings) (chance : Chance α) (plugins : Registry φ) (now : α) :
    (Engine.new settings chance plugins now : Engine α φ μ).ClearingTimers := by
  intro key timer found
  cases found

theorem timer_driven (key : String) :
    Driven (φ := φ) (μ := μ) .timer key
      (fun engine => engine.settings.policy = .resetOnFlush ∧ engine.ClearingTimers)
      (fun timer : Option (Timer α) => (timer.map Timer.intake).getD .zero) Intake.take where
  invariant := invariant_clearingTimers
  takes := by
    rintro engine after update ⟨policy, clearing⟩ takes own
    cases takes with
    | duration name value =>
        cases own
        change (((Table.upsert _ key _).find? key).map Timer.intake).getD .zero =
          (((engine.timers.find? key).map Timer.intake).getD .zero).add value
        rw [Table.find?_upsert, if_pos rfl, Option.map_some, Option.getD_some]
        cases present : engine.timers.find? key with
        | none =>
            rw [Option.getD_none, newTimer, policy, (Timer.clearing_new _ _).intake_update]
            rfl
        | some timer => exact (clearing key timer present).intake_update value _
    | count | gauge | events | further => cases own

theorem Absorbs.wallClock {before after : Engine α φ μ} {updates : List (Update α)}
    (absorbed : before.Absorbs updates after) : after.wallClock = before.wallClock := by
  induction absorbed with
  | refl => rfl
  | unseen same _ ih => exact ih.trans (congrArg (fun engine => engine.wallClock) same)
  | take takes _ ih => exact ih.trans (by cases takes <;> rfl)

theorem wallClock_step (engine : Engine α φ μ) {step : Step α}
    (unset : ∀ seconds, step ≠ .setWallClock seconds) : (engine.step step).2.wallClock = engine.wallClock := by
  rcases engine.step_cases step with ⟨_, absorbed⟩ | rfl | ⟨interval, percent, rfl⟩ | ⟨seconds, set⟩
  · exact absorbed.wallClock
  · rfl
  · rfl
  · exact absurd set (unset seconds)

theorem wallClock_step_eq {left right : Engine α φ μ} (same : left.wallClock = right.wallClock)
    (step : Step α) : (left.step step).2.wallClock = (right.step step).2.wallClock := by
  by_cases set : ∃ seconds, step = .setWallClock seconds
  · obtain ⟨seconds, rfl⟩ := set
    rfl
  · have unset (seconds : α) : step ≠ .setWallClock seconds := fun own => set ⟨seconds, own⟩
    rw [left.wallClock_step unset, right.wallClock_step unset, same]

theorem wallClock_run_eq (steps : List (Step α)) : ∀ {left right : Engine α φ μ},
    left.wallClock = right.wallClock → (left.run steps).2.wallClock = (right.run steps).2.wallClock := by
  induction steps with
  | nil => exact id
  | cons first rest ih => exact fun same => ih (wallClock_step_eq same first)

theorem pending_run (steps : List (Step α)) : ∀ engine : Engine α φ μ, Unflushed steps →
    (engine.run steps).2.gauges.pending.toList =
      engine.gauges.pending.toList ++ (engine.acceptedIn steps).filterMap Update.waiting? := by
  induction steps with
  | nil => exact fun _ _ => by simp [run, acceptedIn]
  | cons first rest ih =>
      intro engine unflushed
      change ((engine.step first).2.run rest).2.gauges.pending.toList = _
      rw [ih _ unflushed.tail, engine.pending_step unflushed.head, acceptedIn, List.filterMap_append,
        List.append_assoc]

omit [MetricFactory φ] [MetricPlugin φ μ α] in
/-- The durations for a key are counted. -/
theorem count_foldl_intake (key : String) (updates : List (Update α)) : ∀ start : Intake α,
    ((updates.filter fun update => update.target = (.timer, key)).foldl Intake.take start).count =
      start.count + updates.countP (Update.isDurationFor key) := by
  induction updates with
  | nil => exact fun _ => rfl
  | cons update rest ih =>
      intro start
      by_cases own : update.target = (.timer, key)
      · rw [List.filter_cons_of_pos (by simpa using own), List.foldl_cons, ih,
          List.countP_cons_of_pos (by simpa [Update.isDurationFor] using own)]
        cases update with
        | duration name value =>
            rw [Intake.take, Intake.count_add]
            omega
        | count | gauge | events | further => cases own
      · rw [List.filter_cons_of_neg (by simpa using own), ih,
          List.countP_cons_of_neg (by simpa [Update.isDurationFor] using own)]

theorem count_intake_run {engine : Engine α φ μ}
    (good : engine.settings.policy = .resetOnFlush ∧ engine.ClearingTimers) {steps : List (Step α)}
    (unflushed : Unflushed steps) (key : String) :
    ((engine.run steps).2.intake key).count =
      (engine.intake key).count + (engine.acceptedIn steps).countP (Update.isDurationFor key) :=
  (congrArg Intake.count ((timer_driven key).run nofun steps good unflushed)).trans
    (count_foldl_intake key (engine.acceptedIn steps) (engine.intake key))

end Runs

section Standard

variable {α : Type} [Number α] {rules : List (Rule α)}

/-- An engine with the standard metric types that is at the start of an interval. -/
structure Cleared (rules : List (Rule α)) (engine : Engine α (StandardFactory α) (StandardMetric α)) : Prop where
  ruled : Ruled .default rules engine
  clearing : engine.ClearingTimers
  counters {key : String} {counter : Counter α} : engine.counters.find? key = some counter → counter = .zero
  timers (key : String) : engine.intake key = .zero
  gauges : engine.gauges = .empty
  indicators {key : String} {metric : StandardMetric α} :
    engine.extension? "sli" key = some metric → metric = .inr (ruledIndicator .default rules key)
  received : engine.received = .empty

variable {engine left right : Engine α (StandardFactory α) (StandardMetric α)}

theorem cleared_flush (ruled : Ruled .default rules engine) (clearing : engine.ClearingTimers)
    (interval : Duration) (percent : Nat) : Cleared rules (engine.flush interval percent).2 where
  ruled := invariant_ruled.flush interval percent ruled
  clearing := (invariant_clearingTimers.flush interval percent
    ⟨congrArg Settings.policy ruled.chosen, clearing⟩).2
  counters := by
    intro key counter found
    change (engine.counters.map _).find? key = some counter at found
    rw [Table.find?_map, Option.map_eq_some_iff] at found
    obtain ⟨_, _, rfl⟩ := found
    rfl
  timers := by
    intro key
    change ((Table.find? (engine.timers.map _) key).map Timer.intake).getD .zero = .zero
    rw [Table.find?_map]
    cases found : engine.timers.find? key with
    | none => rfl
    | some timer =>
        have clears := clearing key timer found
        by_cases idle : timer.isIdle
        · simp [idle, clears.unused (clears.isIdle_iff.mp idle)]
        · simp [idle, (clears.flushed _ _).2]
  gauges := rfl
  indicators := by
    intro key metric present
    rw [extension?_flush, Option.map_eq_some_iff] at present
    obtain ⟨before, found, flushed⟩ := present
    rcases ruled.standard.2 "sli" key before found with ⟨other, _⟩ | ⟨_, indicator, rfl⟩
    · simp at other
    · rw [← ruled.flushed found]
      exact flushed.symm
  received := rfl

theorem Cleared.setWallClock (cleared : Cleared rules engine) (seconds : α) :
    Cleared rules { engine with wallClock := seconds } :=
  ⟨invariant_ruled.setWallClock seconds cleared.ruled, cleared.clearing, cleared.counters, cleared.timers,
    cleared.gauges, cleared.indicators, cleared.received⟩

/-- Two engines know the same metrics, where it may be told from what they report. -/
def SameMetrics (left right : Engine α (StandardFactory α) (StandardMetric α)) : Prop :=
  ∀ kind, kind ≠ .timer → kind ≠ .gauge → ∀ key, left.Has kind key ↔ right.Has kind key

theorem Cleared.counter_eq (leftCleared : Cleared rules left) (rightCleared : Cleared rules right)
    (same : SameMetrics left right) (key : String) : left.counters.find? key = right.counters.find? key :=
  eq_of_isSome_iff (same .counter nofun nofun key) (fun _ => leftCleared.counters)
    fun _ => rightCleared.counters

theorem Cleared.indicator_eq (leftCleared : Cleared rules left) (rightCleared : Cleared rules right)
    (same : SameMetrics left right) (key : String) :
    left.extension? "sli" key = right.extension? "sli" key :=
  eq_of_isSome_iff (same (.extension "sli") nofun nofun key) (fun _ => leftCleared.indicators)
    fun _ => rightCleared.indicators

omit [Number α] in
theorem extension?_sli_of_standard (standard : Standard rules engine) (key : String) :
    engine.extension? "sli" key = (engine.indicator? key).map .inr := by
  unfold indicator?
  cases present : engine.extension? "sli" key with
  | none => rfl
  | some metric =>
      rcases standard.2 "sli" key metric present with ⟨other, _⟩ | ⟨_, indicator, rfl⟩
      · simp at other
      · rfl

/-- At the start of an interval, engines that know the same metrics become alike by the same steps. -/
theorem Cleared.alike_run (leftCleared : Cleared rules left) (rightCleared : Cleared rules right)
    (clock : left.wallClock = right.wallClock) (same : SameMetrics left right) {steps : List (Step α)}
    (unflushed : Unflushed steps)
    (few : ∀ key, (left.acceptedIn steps).countP (Update.isDurationFor key) ≤ Reservoir.defaultSize) :
    Alike (left.run steps).2 (right.run steps).2 := by
  have accepted : left.acceptedIn steps = right.acceptedIn steps :=
    acceptedIn_eq_of_standard steps leftCleared.ruled.standard rightCleared.ruled.standard
  have leftRuled := invariant_ruled.run steps leftCleared.ruled
  have rightRuled := invariant_ruled.run steps rightCleared.ruled
  have leftTimers := And.intro (congrArg Settings.policy leftCleared.ruled.chosen) leftCleared.clearing
  have rightTimers := And.intro (congrArg Settings.policy rightCleared.ruled.chosen) rightCleared.clearing
  have known {kind : MetricKind} (timed : kind ≠ .timer) (lasting : kind ≠ .gauge) (key : String) :
      (left.run steps).2.Has kind key ↔ (right.run steps).2.Has kind key := by
    rw [has_run_iff lasting, has_run_iff lasting, same kind timed lasting key, accepted]
  refine ⟨⟨leftRuled.chosen, rightRuled.chosen⟩, leftRuled.standard.1.trans rightRuled.standard.1.symm,
    wallClock_run_eq steps clock, ?_, ?_, ?_, known nofun nofun, fun _ => known nofun nofun, ?_, ?_,
    ⟨(invariant_clearingTimers.run steps leftTimers).2, (invariant_clearingTimers.run steps rightTimers).2⟩, ?_⟩
  · intro key
    exact (counter_driven key).run_eq nofun trivial trivial unflushed accepted
      (leftCleared.counter_eq rightCleared same key)
  · intro key
    exact (timer_driven key).run_eq nofun leftTimers rightTimers unflushed accepted
      ((leftCleared.timers key).trans (rightCleared.timers key).symm)
  · have pending : (left.run steps).2.gauges.pending.toList = (right.run steps).2.gauges.pending.toList := by
      rw [pending_run steps left unflushed, pending_run steps right unflushed, leftCleared.gauges,
        rightCleared.gauges, accepted]
    exact congrArg GaugeQueue.mk (Array.toList_inj.mp pending)
  · intro key
    have start := leftCleared.indicator_eq rightCleared same key
    have indicator : (left.run steps).2.indicator? key = (right.run steps).2.indicator? key :=
      (indicator_commuting key).driven.run_eq nofun ⟨leftCleared.ruled.chosen, leftCleared.ruled.standard⟩
        ⟨rightCleared.ruled.chosen, rightCleared.ruled.standard⟩ unflushed accepted
        (congrArg (fun metric => metric.bind Sum.getRight?) start)
    rw [extension?_sli_of_standard leftRuled.standard, extension?_sli_of_standard rightRuled.standard, indicator]
  · intro tag
    have none {engine : Engine α (StandardFactory α) (StandardMetric α)} (cleared : Cleared rules engine)
        (tag : String) : engine.receivedCount tag = raised none ([].count (Note.received tag)) := by
      rw [receivedCount, cleared.received]
      rfl
    rw [receivedCount_run steps left [] (none leftCleared), receivedCount_run steps right [] (none rightCleared),
      notesSince_eq_of_standard steps [] leftCleared.ruled.standard rightCleared.ruled.standard]
  · intro key
    rw [count_intake_run leftTimers unflushed, leftCleared.timers]
    exact (Nat.zero_add _).trans_le (few key)

/-- Engines with the standard metric types, the default settings and the same rules, which have just been
flushed after whatever pasts. If they know the same metrics (but for timers), and from then on take the same
steps with no more durations for a timer than its sample holds, the next flush of both has the same
datapoints of counters, gauges and service level indicators, the same of timers but for the rates, and the
same counts of the messages received and of the metrics flushed. These datapoints have their paths in the
same order. -/
theorem interval_flush_perm (rules : List (Rule α)) (leftChance rightChance : Chance α)
    (leftStart rightStart : α) (leftPast rightPast : List (Step α)) (leftInterval rightInterval : Duration)
    (leftPercent rightPercent : Nat) (now : α) (steps : List (Step α)) (interval : Duration) (percent : Nat) :
    let fresh (chance : Chance α) (start : α) : Engine α (StandardFactory α) (StandardMetric α) :=
      .new .default chance (StandardFactory.registry rules) start
    let left := (((fresh leftChance leftStart).run leftPast).2.flush leftInterval leftPercent).2
    let right := (((fresh rightChance rightStart).run rightPast).2.flush rightInterval rightPercent).2
    let leftAfter := (left.run (.setWallClock now :: steps)).2
    let rightAfter := (right.run (.setWallClock now :: steps)).2
    let ofInterval (engine : Engine α (StandardFactory α) (StandardMetric α)) :=
      (engine.attributedFlush interval percent).filter Attributed.ofInterval
    left.SameMetrics right → Unflushed steps →
      (∀ key, (left.acceptedIn (.setWallClock now :: steps)).countP (Update.isDurationFor key) ≤
        Reservoir.defaultSize) →
        (leftAfter.flush interval percent).1 = (leftAfter.attributedFlush interval percent).map Attributed.point ∧
        (rightAfter.flush interval percent).1 = (rightAfter.attributedFlush interval percent).map Attributed.point ∧
        (ofInterval leftAfter).Perm (ofInterval rightAfter) ∧
        (ofInterval leftAfter).map (fun entry => entry.point.path) =
          (ofInterval rightAfter).map fun entry => entry.point.path := by
  intro fresh left right leftAfter rightAfter ofInterval same unflushed few
  have cleared (chance : Chance α) (start : α) (past : List (Step α)) (interval : Duration) (percent : Nat) :
      Cleared rules (((fresh chance start).run past).2.flush interval percent).2 := by
    apply cleared_flush
    · exact invariant_ruled.run past (ruled_new .default chance rules start)
    · exact (invariant_clearingTimers.run past ⟨rfl, clearingTimers_new _ _ _ _⟩).2
  have leftCleared := (cleared leftChance leftStart leftPast leftInterval leftPercent).setWallClock now
  have rightCleared := (cleared rightChance rightStart rightPast rightInterval rightPercent).setWallClock now
  have alike : Alike leftAfter rightAfter := leftCleared.alike_run rightCleared rfl same unflushed few
  refine ⟨?_, ?_, alike.flush interval percent⟩
  · exact (leftAfter.map_point_attributedFlush interval percent).symm
  · exact (rightAfter.map_point_attributedFlush interval percent).symm

/-- Engines that have counted different numbers, one of which has a timer from before. -/
theorem interval_flush_perm_of_gorets :
    let start : Engine ℝ (StandardFactory ℝ) (StandardMetric ℝ) :=
      .new .default (.ofSeed 0) (StandardFactory.registry []) 0
    let left := ((start.run [.increment "gorets" 1, .timing "glork" 7]).2.flush (.ofSeconds 10) 90).2
    let right := ((start.run [.increment "gorets" 4]).2.flush (.ofSeconds 10) 90).2
    let steps : List (Step ℝ) := [.setWallClock 10, .increment "gorets" 2, .timing "glork" 5]
    let ofInterval (engine : Engine ℝ (StandardFactory ℝ) (StandardMetric ℝ)) :=
      (engine.attributedFlush (.ofSeconds 10) 90).filter Attributed.ofInterval
    left.SameMetrics right ∧ (ofInterval (left.run steps).2).Perm (ofInterval (right.run steps).2) := by
  intro start left right steps ofInterval
  have direct (key : String) (value : ℝ) (normal : Key.normalize key = key) (named : key.isEmpty = false) :
      directKey key value = .ok key := by
    simp [directKey, ExactNumber.isFinite_eq, normal, named]
  have gorets (value : ℝ) := direct "gorets" value (by decide) (by decide)
  have glork (value : ℝ) := direct "glork" value (by decide) (by decide)
  have leftAccepted : start.acceptedIn [.increment "gorets" 1, .timing "glork" 7] =
      [.count "gorets" 1 1, .duration "glork" 7] := by
    simp [acceptedIn, accepted, gorets, glork, Except.toOption]
  have rightAccepted : start.acceptedIn [.increment "gorets" 4] = [.count "gorets" 4 1] := by
    simp [acceptedIn, accepted, gorets, Except.toOption]
  have known : left.SameMetrics right := by
    intro kind timed lasting key
    have missed : MetricKind.timer ≠ kind := Ne.symm timed
    rw [has_flush_iff, has_flush_iff, has_run_iff lasting, has_run_iff lasting, leftAccepted, rightAccepted]
    simp [Update.target, missed]
  have few (key : String) : (left.acceptedIn steps).countP (Update.isDurationFor key) ≤ Reservoir.defaultSize := by
    have number : (left.acceptedIn steps).length = 2 := by
      simp [steps, acceptedIn, accepted, gorets, glork, Except.toOption]
    exact List.countP_le_length.trans (number.trans_le (by decide))
  have unflushed : Unflushed (α := ℝ) [.increment "gorets" 2, .timing "glork" 5] := by
    intro interval percent member
    simp at member
  have flushes := interval_flush_perm [] (.ofSeed 0) (.ofSeed 0) 0 0 [.increment "gorets" 1, .timing "glork" 7]
    [.increment "gorets" 4] (.ofSeconds 10) (.ofSeconds 10) 90 90 (10 : ℝ)
    [.increment "gorets" 2, .timing "glork" 5] (.ofSeconds 10) 90 known unflushed few
  exact ⟨known, flushes.2.2.1⟩

end Standard

end Engine

end MetricAggregation
