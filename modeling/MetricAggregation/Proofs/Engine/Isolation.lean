import MetricAggregation.Proofs.Engine.Extension

/-!
Metrics do not interfere: what an engine holds for one kind and key is what it would hold if it had
received nothing else. Two engines that agree on a metric keep agreeing on it through any step, and a step
without an accepted update for a metric leaves the engine in agreement with itself.
-/

namespace MetricAggregation.Engine

variable {α φ μ : Type}

/-- What is held for a metric of a kind. Of a gauge these are the values that wait. -/
def Held (α μ : Type) : MetricKind → Type
  | .counter => Option (Counter α)
  | .timer => Option (Timer α)
  | .gauge => List α
  | .meter => Option (Meter α)
  | .extension _ => Option μ

/-- What an engine holds for a kind and a key. -/
def held (engine : Engine α φ μ) : (kind : MetricKind) → String → Held α μ kind
  | .counter, key => engine.counters.find? key
  | .timer, key => engine.timers.find? key
  | .gauge, key => engine.gauges.valuesOf key
  | .meter, key => engine.meters.find? key
  | .extension tag, key => engine.extension? tag key

/-- Two engines are configured alike, show the same time and hold the same for a kind and a key. -/
structure Agree (kind : MetricKind) (key : String) (left right : Engine α φ μ) : Prop where
  settings : left.settings = right.settings
  chance : left.chance = right.chance
  plugins : left.plugins = right.plugins
  wallClock : left.wallClock = right.wallClock
  held : left.held kind key = right.held kind key

namespace Agree

variable {kind : MetricKind} {key : String} {left middle right : Engine α φ μ}

theorem refl (engine : Engine α φ μ) : Agree kind key engine engine := ⟨rfl, rfl, rfl, rfl, rfl⟩

theorem symm (same : Agree kind key left right) : Agree kind key right left :=
  ⟨same.settings.symm, same.chance.symm, same.plugins.symm, same.wallClock.symm, same.held.symm⟩

theorem trans (first : Agree kind key left middle) (second : Agree kind key middle right) :
    Agree kind key left right :=
  ⟨first.settings.trans second.settings, first.chance.trans second.chance,
    first.plugins.trans second.plugins, first.wallClock.trans second.wallClock,
    first.held.trans second.held⟩

theorem of_bare (same : left.bare = right.bare) : Agree kind key left right := by
  obtain ⟨⟩ := left
  obtain ⟨⟩ := right
  simp only [bare, Engine.mk.injEq] at same
  obtain ⟨rfl, rfl, rfl, rfl, rfl, rfl, rfl, rfl, _, _, rfl, _⟩ := same
  cases kind <;> exact ⟨rfl, rfl, rfl, rfl, rfl⟩

end Agree

theorem valuesOf_push (queue : GaugeQueue α) (name : String) (value : α) (key : String) :
    (queue.push name value).valuesOf key =
      queue.valuesOf key ++ if name = key then [value] else [] := by
  by_cases hit : name = key
  · simp [GaugeQueue.valuesOf, GaugeQueue.push, hit]
  · simp [GaugeQueue.valuesOf, GaugeQueue.push, hit]

section Steps

variable [Number α] [MetricFactory φ] [MetricPlugin φ μ α]
variable {kind : MetricKind} {key : String} {engine after left right : Engine α φ μ}
variable {update : Update α}

theorem agree_of_takes_other (takes : engine.Takes update after) (other : update.target ≠ (kind, key)) :
    Agree kind key after engine := by
  refine ⟨?_, ?_, ?_, ?_, ?_⟩
  · cases takes <;> rfl
  · cases takes <;> rfl
  · cases takes <;> rfl
  · cases takes <;> rfl
  · cases takes with
    | count name value rate =>
        cases kind with
        | counter =>
            have miss : key ≠ name := by
              rintro rfl
              exact other rfl
            change (engine.counters.upsert name _).find? key = engine.counters.find? key
            rw [Table.find?_upsert, if_neg miss]
        | timer | gauge | meter | extension => rfl
    | duration name value =>
        cases kind with
        | timer =>
            have miss : key ≠ name := by
              rintro rfl
              exact other rfl
            change (engine.timers.upsert name _).find? key = engine.timers.find? key
            rw [Table.find?_upsert, if_neg miss]
        | counter | gauge | meter | extension => rfl
    | gauge name value =>
        cases kind with
        | gauge =>
            have miss : name ≠ key := by
              rintro rfl
              exact other rfl
            change (engine.gauges.push name value).valuesOf key = engine.gauges.valuesOf key
            rw [valuesOf_push, if_neg miss, List.append_nil]
        | counter | timer | meter | extension => rfl
    | events name number =>
        cases kind with
        | meter =>
            have miss : key ≠ name := by
              rintro rfl
              exact other rfl
            change (engine.meters.upsert name _).find? key = engine.meters.find? key
            rw [Table.find?_upsert, if_neg miss]
        | counter | timer | gauge | extension => rfl
    | @further tag name fields metric changed found processed =>
        cases kind with
        | extension otherTag =>
            have miss : ¬(otherTag = tag ∧ key = name) := by
              rintro ⟨rfl, rfl⟩
              exact other rfl
            change (engine.putExtension tag name changed).extension? otherTag key =
              engine.extension? otherTag key
            rw [extension?_putExtension, if_neg miss]
        | counter | timer | gauge | meter => rfl

omit [Number α] in
theorem Agree.extensionFor {tag : String} (same : Agree (.extension tag) key left right) :
    left.extensionFor tag key = right.extensionFor tag key := by
  have metric : left.extension? tag key = right.extension? tag key := same.held
  simp only [Engine.extensionFor, metric, same.plugins, same.settings, same.wallClock, same.chance]

theorem Agree.takes (same : Agree kind key left right) (takes : left.Takes update after)
    (own : update.target = (kind, key)) :
    ∃ other, right.Takes update other ∧ Agree kind key after other := by
  obtain ⟨settings, chance, plugins, wallClock, metric⟩ := same
  cases takes with
  | count name value rate =>
      cases own
      refine ⟨_, .count key value rate, settings, chance, plugins, wallClock, ?_⟩
      have found : left.counters.find? key = right.counters.find? key := metric
      change (left.counters.upsert key _).find? key = (right.counters.upsert key _).find? key
      rw [Table.find?_upsert, Table.find?_upsert, if_pos rfl, if_pos rfl, found]
  | duration name value =>
      cases own
      refine ⟨_, .duration key value, settings, chance, plugins, wallClock, ?_⟩
      have found : left.timers.find? key = right.timers.find? key := metric
      change (left.timers.upsert key _).find? key = (right.timers.upsert key _).find? key
      rw [Table.find?_upsert, Table.find?_upsert, if_pos rfl, if_pos rfl, found]
      simp only [newTimer, settings, chance, wallClock]
  | gauge name value =>
      cases own
      refine ⟨_, .gauge key value, settings, chance, plugins, wallClock, ?_⟩
      have found : left.gauges.valuesOf key = right.gauges.valuesOf key := metric
      change (left.gauges.push key value).valuesOf key = (right.gauges.push key value).valuesOf key
      rw [valuesOf_push, valuesOf_push, found]
  | events name number =>
      cases own
      refine ⟨_, .events key number, settings, chance, plugins, wallClock, ?_⟩
      have found : left.meters.find? key = right.meters.find? key := metric
      change (left.meters.upsert key _).find? key = (right.meters.upsert key _).find? key
      rw [Table.find?_upsert, Table.find?_upsert, if_pos rfl, if_pos rfl, found, wallClock]
  | @further tag name fields metricBefore changed found processed =>
      cases own
      have same : Agree (.extension tag) key left right := ⟨settings, chance, plugins, wallClock, metric⟩
      rw [same.extensionFor] at found
      rw [wallClock] at processed
      refine ⟨_, .further found processed, settings, chance, plugins, wallClock, ?_⟩
      change (left.putExtension tag key changed).extension? tag key =
        (right.putExtension tag key changed).extension? tag key
      rw [extension?_putExtension, extension?_putExtension, if_pos ⟨rfl, rfl⟩, if_pos ⟨rfl, rfl⟩]

theorem Agree.takes_both (same : Agree kind key left right) {leftAfter rightAfter : Engine α φ μ}
    (first : left.Takes update leftAfter) (second : right.Takes update rightAfter) :
    Agree kind key leftAfter rightAfter := by
  by_cases own : update.target = (kind, key)
  · obtain ⟨other, takes, agree⟩ := same.takes first own
    rwa [takes.unique second] at agree
  · exact ((agree_of_takes_other first own).trans same).trans (agree_of_takes_other second own).symm

theorem Agree.taken? (same : Agree kind key left right) {bytes : List UInt8}
    (taken : left.taken? bytes = some update) (own : update.target = (kind, key)) :
    right.taken? bytes = some update := by
  obtain ⟨message, updated, read, asked, takes⟩ := taken?_eq_some_iff.mp taken
  obtain ⟨other, takesToo, _⟩ := same.takes takes own
  exact taken?_eq_some_iff.mpr ⟨message, other, read, asked, takesToo⟩

theorem agree_process_other {bytes : List UInt8}
    (others : ∀ update, engine.taken? bytes = some update → update.target ≠ (kind, key)) :
    Agree kind key (engine.process bytes) engine := by
  cases taken : engine.taken? bytes with
  | none => exact .of_bare (process_of_refused taken)
  | some update =>
      obtain ⟨after, takes, same⟩ := process_of_taken taken
      exact (Agree.of_bare same).trans (agree_of_takes_other takes (others update taken))

theorem Agree.process (same : Agree kind key left right) (bytes : List UInt8) :
    Agree kind key (left.process bytes) (right.process bytes) := by
  by_cases own : ∃ update, left.taken? bytes = some update ∧ update.target = (kind, key)
  · obtain ⟨update, taken, hit⟩ := own
    obtain ⟨leftAfter, leftTakes, leftSame⟩ := process_of_taken taken
    obtain ⟨rightAfter, rightTakes, rightSame⟩ := process_of_taken (same.taken? taken hit)
    have agree := same.takes_both leftTakes rightTakes
    exact ((Agree.of_bare leftSame).trans agree).trans (Agree.of_bare rightSame).symm
  · have leftOther : Agree kind key (left.process bytes) left :=
      agree_process_other fun update taken hit => own ⟨update, taken, hit⟩
    have rightOther : Agree kind key (right.process bytes) right :=
      agree_process_other fun update taken hit => own ⟨update, same.symm.taken? taken hit, hit⟩
    exact (leftOther.trans same).trans rightOther.symm

omit [Number α] [MetricFactory φ] [MetricPlugin φ μ α] in
theorem agree_discard : Agree kind key engine.discard engine := .of_bare rfl

theorem Agree.increment (same : Agree kind key left right) (name : String) (value : α) :
    Agree kind key (left.increment name value) (right.increment name value) := by
  unfold Engine.increment
  cases directKey name value with
  | error _ => exact (agree_discard.trans same).trans agree_discard.symm
  | ok name => exact same.takes_both (.count name value 1) (.count name value 1)

theorem Agree.recordTiming (same : Agree kind key left right) (name : String) (duration : α) :
    Agree kind key (left.recordTiming name duration) (right.recordTiming name duration) := by
  unfold Engine.recordTiming
  cases directKey name duration with
  | error _ => exact (agree_discard.trans same).trans agree_discard.symm
  | ok name => exact same.takes_both (.duration name duration) (.duration name duration)

theorem Agree.packet (same : Agree kind key left right) (lines : List (List UInt8)) :
    Agree kind key (lines.foldl Engine.process left) (lines.foldl Engine.process right) := by
  induction lines generalizing left right with
  | nil => exact same
  | cons bytes rest ih => exact ih (same.process bytes)

omit [MetricFactory φ] [MetricPlugin φ μ α] in
theorem Agree.tickMeters (same : Agree kind key left right) :
    Agree kind key left.tickMeters right.tickMeters := by
  refine ⟨same.settings, same.chance, same.plugins, same.wallClock, ?_⟩
  have metric := same.held
  cases kind with
  | meter =>
      have found : left.meters.find? key = right.meters.find? key := metric
      change (left.meters.map Meter.tick).find? key = (right.meters.map Meter.tick).find? key
      rw [Table.find?_map, Table.find?_map, found]
  | counter | timer | gauge | extension => exact metric

omit [MetricFactory φ] [MetricPlugin φ μ α] in
theorem held_tickMeters (engine : Engine α φ μ) (unticked : kind ≠ .meter) :
    engine.tickMeters.held kind key = engine.held kind key := by
  cases kind with
  | meter => exact absurd rfl unticked
  | counter | timer | gauge | extension => rfl

theorem Agree.flush (same : Agree kind key left right) (interval : Duration) (percent : Nat) :
    Agree kind key (left.flush interval percent).2 (right.flush interval percent).2 := by
  refine ⟨same.settings, same.chance, same.plugins, same.wallClock, ?_⟩
  obtain ⟨settings, chance, plugins, wallClock, metric⟩ := same
  cases kind with
  | counter =>
      have found : left.counters.find? key = right.counters.find? key := metric
      change (left.counters.map _).find? key = (right.counters.map _).find? key
      rw [Table.find?_map, Table.find?_map, found]
  | timer =>
      have found : left.timers.find? key = right.timers.find? key := metric
      change (left.timers.map _).find? key = (right.timers.map _).find? key
      rw [Table.find?_map, Table.find?_map, found, wallClock]
  | gauge => rfl
  | meter => exact metric
  | extension tag =>
      have found : left.extension? tag key = right.extension? tag key := metric
      change (left.flush interval percent).2.extension? tag key =
        (right.flush interval percent).2.extension? tag key
      rw [extension?_flush, extension?_flush, found]
      simp only [flushExtension, factoryName, settings, plugins, wallClock]

theorem Agree.step (same : Agree kind key left right) (step : Step α) :
    Agree kind key (left.step step).2 (right.step step).2 := by
  cases step with
  | message bytes => exact same.process bytes
  | packet bytes => exact same.packet (packetLines bytes)
  | increment name value => exact same.increment name value
  | timing name duration => exact same.recordTiming name duration
  | tick => exact same.tickMeters
  | flush interval percent => exact same.flush interval percent
  | setWallClock seconds => exact ⟨same.settings, same.chance, same.plugins, rfl, same.held⟩
  | setStopwatch _ =>
      exact ⟨same.settings, same.chance, same.plugins, same.wallClock, same.held⟩

theorem agree_of_absorbs_others {updates : List (Update α)} (absorbed : engine.Absorbs updates after)
    (others : ∀ update ∈ updates, update.target ≠ (kind, key)) : Agree kind key after engine := by
  induction absorbed with
  | refl => exact .refl _
  | unseen same _ ih => exact (ih others).trans (.of_bare same)
  | take takes _ ih =>
      have rest := ih fun update member => others update (List.mem_cons_of_mem _ member)
      exact rest.trans (agree_of_takes_other takes (others _ (by simp)))

end Steps

section Runs

variable [Number α] [MetricFactory φ] [MetricPlugin φ μ α]

/-- Whether a step bears on a metric. An update does if it is accepted, and is for this metric; ticks,
flushes and readings of the clocks bear on all. -/
def concerns (engine : Engine α φ μ) (kind : MetricKind) (key : String) : Step α → Bool
  | .tick => true
  | .flush _ _ => true
  | .setWallClock _ => true
  | .setStopwatch _ => true
  | step => (engine.accepted step).any fun update => update.target = (kind, key)

def restrict (engine : Engine α φ μ) (kind : MetricKind) (key : String) : List (Step α) → List (Step α)
  | [] => []
  | first :: rest =>
    let others := (engine.step first).2.restrict kind key rest
    if engine.concerns kind key first then first :: others else others

/-- The steps of a run with every packet replaced by its messages. -/
def unpack (steps : List (Step α)) : List (Step α) :=
  steps.flatMap fun step => match step with
    | .packet bytes => (packetLines bytes).map .message
    | step => [step]

theorem run_messages (lines : List (List UInt8)) (rest : List (Step α)) :
    ∀ engine : Engine α φ μ,
      engine.run (lines.map .message ++ rest) = (lines.foldl process engine).run rest := by
  induction lines with
  | nil => exact fun _ => rfl
  | cons bytes others ih =>
      intro engine
      have tail := ih (engine.process bytes)
      simp only [List.map_cons, List.cons_append, run, step, tail, List.foldl_cons, Option.toList_none,
        List.nil_append]

theorem run_unpack (steps : List (Step α)) : ∀ engine : Engine α φ μ,
    engine.run (unpack steps) = engine.run steps := by
  induction steps with
  | nil => exact fun _ => rfl
  | cons first rest ih =>
      intro engine
      have unpacked : ∀ step : Step α, unpack (step :: rest) =
          (match step with
            | .packet bytes => (packetLines bytes).map .message
            | step => [step]) ++ unpack rest := fun _ => rfl
      cases first with
      | packet bytes =>
          rw [unpacked, run_messages, ih]
          simp only [run, step, processPacket, Option.toList_none, List.nil_append]
      | message | increment | timing | tick | flush | setWallClock | setStopwatch =>
          rw [unpacked]
          simp only [List.singleton_append, run, ih]

theorem agree_of_not_concerns {engine : Engine α φ μ} {kind : MetricKind} {key : String} {step : Step α}
    (unconcerned : engine.concerns kind key step = false) :
    Agree kind key (engine.step step).2 engine := by
  rcases engine.step_cases step with
    ⟨_, absorbed⟩ | rfl | ⟨interval, percent, rfl⟩ | ⟨seconds, rfl⟩
  · apply agree_of_absorbs_others absorbed
    intro update member own
    have concerned : (engine.accepted step).any (fun update => update.target = (kind, key)) = true :=
      List.any_eq_true.mpr ⟨update, member, by simpa using own⟩
    cases step with
    | message | packet | increment | timing =>
        simp only [concerns] at unconcerned
        rw [unconcerned] at concerned
        contradiction
    | tick | flush | setWallClock | setStopwatch => simp [concerns] at unconcerned
  · simp [concerns] at unconcerned
  · simp [concerns] at unconcerned
  · simp [concerns] at unconcerned

theorem Agree.run_restrict {kind : MetricKind} {key : String} (steps : List (Step α)) :
    ∀ {left right : Engine α φ μ}, Agree kind key left right →
      Agree kind key (left.run steps).2 (right.run (left.restrict kind key steps)).2 := by
  induction steps with
  | nil => exact fun same => same
  | cons first rest ih =>
      intro left right same
      by_cases concerned : left.concerns kind key first
      · simp only [restrict, concerned, if_true]
        exact ih (same.step first)
      · simp only [restrict, concerned, Bool.false_eq_true, if_false]
        exact ih ((agree_of_not_concerns (by simpa using concerned)).trans same)

/-- What an engine holds for a kind and a key after any run is what it holds after the part of the run that
bears on them: the accepted updates for this kind and key alone, each at its time, with all flushes and
ticks. -/
theorem held_run_eq_restricted (settings : Settings) (chance : Chance α) (plugins : Registry φ) (now : α)
    (steps : List (Step α)) (kind : MetricKind) (key : String) :
    let start : Engine α φ μ := .new settings chance plugins now
    (start.run steps).2.held kind key =
      (start.run (start.restrict kind key (unpack steps))).2.held kind key := by
  intro start
  rw [← run_unpack steps start]
  exact (Agree.run_restrict (unpack steps) (.refl start)).held

end Runs

end MetricAggregation.Engine
