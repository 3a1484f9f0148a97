import MetricAggregation.Proofs.Engine.Commutation
import MetricAggregation.Proofs.Engine.Independence
import MetricAggregation.Proofs.Engine.Presence
import MetricAggregation.Proofs.Interleaving

/-!
No update is lost when several clients share an engine: however their calls are interleaved, the same
updates are accepted, and what does not depend on the order of updates comes out the same.
-/

namespace MetricAggregation

/-- What a client may do to a shared engine. -/
inductive Call (α : Type) where
  | message (bytes : List UInt8)
  | packet (bytes : List UInt8)
  | increment (key : String) (value : α)
  | timing (key : String) (duration : α)

def Call.step {α : Type} : Call α → Step α
  | message bytes => .message bytes
  | packet bytes => .packet bytes
  | increment key value => .increment key value
  | timing key duration => .timing key duration

namespace Engine

section Calls

variable {α φ μ : Type} [Number α] [MetricFactory φ] [MetricPlugin φ μ α]

theorem Absorbs.append {before middle after : Engine α φ μ} {first second : List (Update α)}
    (earlier : before.Absorbs first middle) (later : middle.Absorbs second after) :
    before.Absorbs (first ++ second) after := by
  induction earlier with
  | refl => exact later
  | unseen same _ ih => exact .unseen same (ih later)
  | take takes _ ih => exact .take takes (ih later)

theorem absorbs_call (engine : Engine α φ μ) (call : Call α) :
    engine.Absorbs (engine.accepted call.step) (engine.step call.step).2 := by
  rcases engine.step_cases call.step with ⟨_, absorbed⟩ | tick | ⟨_, _, flush⟩ | ⟨_, clock⟩
  · exact absorbed
  · cases call <;> cases tick
  · cases call <;> cases flush
  · cases call <;> cases clock

theorem records_call (engine : Engine α φ μ) (call : Call α) :
    Records engine (engine.step call.step).2 (engine.notes call.step) := by
  apply engine.records_step
  intro interval percent flush
  cases call <;> cases flush

end Calls

section Standard

variable {α : Type} [Number α] {rules : List (Rule α)}
variable {start : Engine α (StandardFactory α) (StandardMetric α)}

/-- The updates that are accepted in some calls, which are the same wherever the calls are made. -/
def updatesOf (start : Engine α (StandardFactory α) (StandardMetric α)) (calls : List (Call α)) :
    List (Update α) :=
  calls.flatMap fun call => start.accepted call.step

def notesOfCalls (start : Engine α (StandardFactory α) (StandardMetric α)) (calls : List (Call α)) :
    List Note :=
  calls.flatMap fun call => start.notes call.step

theorem run_calls (standard : Standard rules start) (calls : List (Call α)) :
    ∀ {engine : Engine α (StandardFactory α) (StandardMetric α)}, Standard rules engine →
      engine.Absorbs (start.updatesOf calls) (engine.run (calls.map Call.step)).2 ∧
        Records engine (engine.run (calls.map Call.step)).2 (start.notesOfCalls calls) := by
  induction calls with
  | nil => exact fun _ => ⟨.refl _, .of_same rfl rfl⟩
  | cons call rest ih =>
      intro engine holds
      obtain ⟨absorbed, recorded⟩ := ih (invariant_standard.step call.step holds)
      have accepted := accepted_eq_of_standard standard holds call.step
      have noted := notes_eq_of_standard standard holds call.step
      have first := engine.absorbs_call call
      have firstRecorded := engine.records_call call
      rw [← accepted] at first
      rw [← noted] at firstRecorded
      exact ⟨first.append absorbed, firstRecorded.trans recorded⟩

theorem acceptedIn_calls (standard : Standard rules start) (calls : List (Call α)) :
    ∀ {engine : Engine α (StandardFactory α) (StandardMetric α)}, Standard rules engine →
      engine.acceptedIn (calls.map Call.step) = start.updatesOf calls := by
  induction calls with
  | nil => exact fun _ => rfl
  | cons call rest ih =>
      intro engine holds
      rw [List.map_cons, acceptedIn, ih (invariant_standard.step call.step holds),
        accepted_eq_of_standard holds standard]
      rfl

end Standard

section Schedules

variable {α ι : Type} [ExactNumber α] {rules : List (Rule α)}

def afterCalls (start : Engine α (StandardFactory α) (StandardMetric α)) (schedule : List (ι × Call α)) :
    Engine α (StandardFactory α) (StandardMetric α) :=
  (start.run ((schedule.map Prod.snd).map Call.step)).2

def gaugesOf (start : Engine α (StandardFactory α) (StandardMetric α)) (calls : List (Call α)) :
    List (String × α) :=
  calls.flatMap fun call => (start.accepted call.step).filterMap Update.waiting?

def indicator? (engine : Engine α (StandardFactory α) (StandardMetric α)) (key : String) :
    Option (Indicator α) :=
  (engine.extension? "sli" key).bind Sum.getRight?

variable {start : Engine α (StandardFactory α) (StandardMetric α)}

theorem afterCalls_absorbs (standard : Standard rules start) (schedule : List (ι × Call α)) :
    start.Absorbs (start.updatesOf (schedule.map Prod.snd)) (start.afterCalls schedule) :=
  (run_calls standard _ standard).1

theorem afterCalls_records (standard : Standard rules start) (schedule : List (ι × Call α)) :
    Records start (start.afterCalls schedule) (start.notesOfCalls (schedule.map Prod.snd)) :=
  (run_calls standard _ standard).2

theorem filterMap_updatesOf (calls : List (Call α)) :
    (start.updatesOf calls).filterMap Update.waiting? = start.gaugesOf calls := by
  rw [updatesOf, gaugesOf, List.filterMap_flatMap]

variable [DecidableEq ι] {clients : ι → List (Call α)}

theorem pending_afterCalls (standard : Standard rules start) {schedule : List (ι × Call α)}
    (keeps : Interleaves clients schedule) :
    ∃ waiting, Interleaves (fun client => start.gaugesOf (clients client)) waiting ∧
      (start.afterCalls schedule).gauges.pending.toList =
        start.gauges.pending.toList ++ waiting.map Prod.snd := by
  let values (call : Call α) := (start.accepted call.step).filterMap Update.waiting?
  refine ⟨_, keeps.flatMap values, ?_⟩
  rw [pending_absorbs (afterCalls_absorbs standard schedule), filterMap_updatesOf,
    map_snd_flatMap_turns schedule values]
  rfl

/-- However the calls of several clients are interleaved, starting from any state that an engine with the
standard metric types can reach: as many messages and updates are discarded, as many messages of each tag
are received, the same metrics are there, with the same counters, numbers of events, indicators and digests
of timers, and the same gauge values wait. The updates that are accepted are those that would be accepted
at the start, and the gauge values of each client wait in its order. -/
theorem afterCalls_eq_of_interleaves (settings : Settings) (chance : Chance α) (rules : List (Rule α))
    (now : α) (history : List (Step α)) (clients : ι → List (Call α)) (first second : List (ι × Call α))
    (firstKeeps : Interleaves clients first) (secondKeeps : Interleaves clients second) :
    let fresh : Engine α (StandardFactory α) (StandardMetric α) :=
      .new settings chance (StandardFactory.registry rules) now
    let start := (fresh.run history).2
    let left := start.afterCalls first
    let right := start.afterCalls second
    left.badLines = right.badLines ∧
      (∀ tag, left.receivedCount tag = right.receivedCount tag) ∧
      left.metricNames = right.metricNames ∧
      (∀ key, left.counters.find? key = right.counters.find? key) ∧
      (∀ key, (left.meters.find? key).map Meter.count = (right.meters.find? key).map Meter.count) ∧
      (∀ key, left.indicator? key = right.indicator? key) ∧
      (∀ key, (left.timers.find? key).map Timer.digest = (right.timers.find? key).map Timer.digest) ∧
      left.gauges.pending.toList.Perm right.gauges.pending.toList ∧
      ∀ schedule, Interleaves clients schedule →
        start.acceptedIn ((schedule.map Prod.snd).map Call.step) =
            (schedule.map Prod.snd).flatMap (fun call => start.accepted call.step) ∧
          ∃ waiting, Interleaves (fun client => start.gaugesOf (clients client)) waiting ∧
            (start.afterCalls schedule).gauges.pending.toList =
              start.gauges.pending.toList ++ waiting.map Prod.snd := by
  intro fresh start left right
  have reached : start.settings = settings ∧ Standard rules start :=
    ((invariant_settings settings).and invariant_standard).run history
      ⟨rfl, standard_new settings chance rules now⟩
  have standard := reached.2
  have calls : (first.map Prod.snd).Perm (second.map Prod.snd) := (firstKeeps.perm secondKeeps).map _
  have updates : (start.updatesOf (first.map Prod.snd)).Perm (start.updatesOf (second.map Prod.snd)) :=
    calls.flatMap_right _
  have notes (note : Note) : (start.notesOfCalls (first.map Prod.snd)).count note =
      (start.notesOfCalls (second.map Prod.snd)).count note := (calls.flatMap_right _).count_eq note
  have leftAbsorbed := afterCalls_absorbs standard first
  have rightAbsorbed := afterCalls_absorbs standard second
  have leftRecorded := afterCalls_records standard first
  have rightRecorded := afterCalls_records standard second
  refine ⟨?_, ?_, ?_, ?_, ?_, ?_, ?_, ?_, ?_⟩
  · rw [leftRecorded.badLines, rightRecorded.badLines, notes]
  · intro tag
    rw [leftRecorded.received, rightRecorded.received, notes]
  · apply metricNames_eq_of_has
    intro kind key
    rw [has_absorbs_iff leftAbsorbed, has_absorbs_iff rightAbsorbed]
    simp only [updates.mem_iff]
  · exact fun key => (counter_commuting key).eq_of_perm trivial leftAbsorbed rightAbsorbed updates
  · exact fun key => (meter_commuting key).eq_of_perm trivial leftAbsorbed rightAbsorbed updates
  · exact fun key => (indicator_commuting key).eq_of_perm reached leftAbsorbed rightAbsorbed updates
  · exact fun key => (timer_commuting key).eq_of_perm trivial leftAbsorbed rightAbsorbed updates
  · rw [pending_absorbs leftAbsorbed, pending_absorbs rightAbsorbed]
    exact (updates.filterMap _).append_left _
  · exact fun schedule keeps => ⟨acceptedIn_calls standard _ standard, pending_afterCalls standard keeps⟩

/-- Two clients write a gauge under one key, and the second of them another one too. -/
theorem afterCalls_eq_of_twoClients :
    let clients (client : Bool) : List (Call ℝ) :=
      if client then [.message "glork:1|g".toUTF8.toList, .increment "glork" 1]
      else [.packet "glork:2|g\nfoo:3|g".toUTF8.toList]
    let first : List (Bool × Call ℝ) :=
      [(true, .message "glork:1|g".toUTF8.toList), (true, .increment "glork" 1),
        (false, .packet "glork:2|g\nfoo:3|g".toUTF8.toList)]
    let second : List (Bool × Call ℝ) :=
      [(true, .message "glork:1|g".toUTF8.toList),
        (false, .packet "glork:2|g\nfoo:3|g".toUTF8.toList), (true, .increment "glork" 1)]
    let start : Engine ℝ (StandardFactory ℝ) (StandardMetric ℝ) :=
      .new .default (.ofSeed 0) (StandardFactory.registry []) 1000
    Interleaves clients first ∧ Interleaves clients second ∧
      (start.afterCalls first).metricNames = (start.afterCalls second).metricNames ∧
      (start.afterCalls first).counters.find? "glork" = (start.afterCalls second).counters.find? "glork" ∧
      (start.afterCalls first).gauges.pending.toList.Perm
        (start.afterCalls second).gauges.pending.toList := by
  intro clients first second start
  have firstKeeps : Interleaves clients first := by
    intro client
    cases client <;> rfl
  have secondKeeps : Interleaves clients second := by
    intro client
    cases client <;> rfl
  obtain ⟨_, _, names, counters, _, _, _, gauges, _⟩ :=
    afterCalls_eq_of_interleaves .default (.ofSeed 0) [] 1000 [] clients first second firstKeeps secondKeeps
  exact ⟨firstKeeps, secondKeeps, names, counters "glork", gauges⟩

end Schedules

end Engine

end MetricAggregation
