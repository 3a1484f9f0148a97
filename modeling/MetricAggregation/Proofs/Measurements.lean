import Mathlib.Data.List.Basic
import Mathlib.Data.List.DropRight
import Mathlib.Data.List.Induction
import MetricAggregation.Proofs.Datapoint
import MetricAggregation.ServiceLevel.Indicator

/-!
What a service level indicator counts: the measurements that it has accepted since the last flush. They come one by one,
and what they make of the indicator does not depend on their order.
-/

namespace MetricAggregation

/-- What a message says of an operation: that it failed, or a value and the size of the operation. -/
inductive Measurement (α : Type) where
  | failure
  | value (value size : α)

def Measurement.isFailure {α : Type} : Measurement α → Bool
  | failure => true
  | value _ _ => false

/-- What is done with an indicator. -/
inductive IndicatorStep (α : Type) where
  | process (fields : Fields)
  | update (value size : α)
  | updateError
  | flush

def IndicatorStep.isFlush {α : Type} : IndicatorStep α → Bool
  | flush => true
  | _ => false

variable {α : Type} [Number α]

namespace Measurement

def ofFields (fields : Fields) : Except MessageError (Measurement α) := do
  let size ← Indicator.size fields.extra
  if fields.value = Indicator.errorValue then return .failure
  else return .value (← parseValue fields.value) size

/-- Whether a measurement meets a condition. A failed operation meets none. -/
def meets (condition : Condition α) : Measurement α → Bool
  | failure => false
  | value reading size => condition.isMet reading size

theorem countP_meets_add_failures (condition : Condition α) (measured : List (Measurement α)) :
    measured.countP (meets condition) + measured.countP isFailure ≤ measured.length := by
  rw [measured.length_eq_countP_add_countP isFailure, Nat.add_comm]
  refine Nat.add_le_add_left (List.countP_mono_left fun measurement _ met => ?_) _
  cases measurement with
  | failure => cases met
  | value => rfl

end Measurement

namespace IndicatorStep

/-- The measurement that a step takes. Fields that cannot be read are refused and give none. -/
def measurement? : IndicatorStep α → Option (Measurement α)
  | process fields => (Measurement.ofFields fields).toOption
  | update value size => some (.value value size)
  | updateError => some .failure
  | flush => none

/-- The measurements behind the last flush. -/
def sinceFlush (steps : List (IndicatorStep α)) : List (Measurement α) :=
  (steps.rtakeWhile fun step => !step.isFlush).filterMap measurement?

theorem sinceFlush_concat_flush (steps : List (IndicatorStep α)) : sinceFlush (steps ++ [.flush]) = [] := by
  simp [sinceFlush, isFlush]

theorem sinceFlush_concat {step : IndicatorStep α} (goesOn : step.isFlush = false) (steps : List (IndicatorStep α)) :
    sinceFlush (steps ++ [step]) = sinceFlush steps ++ step.measurement?.toList := by
  rw [sinceFlush, List.rtakeWhile_concat_pos _ _ _ (by simp [goesOn]), List.filterMap_append, ← sinceFlush]
  cases measured : step.measurement? with
  | none => simp [measured]
  | some measurement => simp [measured]

end IndicatorStep

namespace Indicator

def take (indicator : Indicator α) : Measurement α → Indicator α
  | .failure => indicator.updateError
  | .value value size => indicator.update value size

theorem process_eq (indicator : Indicator α) (fields : Fields) :
    indicator.process fields = (Measurement.ofFields fields).map indicator.take := by
  unfold process Measurement.ofFields
  cases (size fields.extra : Except MessageError α) with
  | error _ => rfl
  | ok size =>
      by_cases failed : fields.value = errorValue
      · simp only [failed, if_true]
        rfl
      · simp only [failed, if_false]
        cases (parseValue fields.value : Except MessageError α) with
        | error _ => rfl
        | ok value => rfl

theorem take_comm (indicator : Indicator α) (first second : Measurement α) :
    (indicator.take first).take second = (indicator.take second).take first := by
  cases first with
  | failure =>
      cases second with
      | failure => rfl
      | value => rfl
  | value firstValue firstSize =>
      cases second with
      | failure => rfl
      | value secondValue secondSize =>
          simp only [take, update, List.map_map, Indicator.mk.injEq, and_true]
          apply List.map_congr_left
          intro entry _
          by_cases first : entry.condition.isMet firstValue firstSize
          · by_cases second : entry.condition.isMet secondValue secondSize
            · simp [first, second]
            · simp [first, second]
          · by_cases second : entry.condition.isMet secondValue secondSize
            · simp [first, second]
            · simp [first, second]

/-- An indicator after a step. Fields that are refused leave it as it was. -/
def step (indicator : Indicator α) : IndicatorStep α → Indicator α
  | .process fields => (indicator.process fields).toOption.getD indicator
  | .update value size => indicator.update value size
  | .updateError => indicator.updateError
  | .flush => indicator.flushed

/-- The indicator that some measurements make of a new one. -/
def tallied (conditions : Conditions α) (measured : List (Measurement α)) : Indicator α where
  conditions := conditions.map fun entry => ⟨entry.1, entry.2, measured.countP (Measurement.meets entry.2)⟩
  count := measured.length
  errors := measured.countP Measurement.isFailure

theorem flushed_tallied (conditions : Conditions α) (measured : List (Measurement α)) :
    (tallied conditions measured).flushed = ofConditions conditions := by
  simp [flushed, tallied, ofConditions, Function.comp_def]

theorem take_tallied (conditions : Conditions α) (measured : List (Measurement α)) (measurement : Measurement α) :
    (tallied conditions measured).take measurement = tallied conditions (measured ++ [measurement]) := by
  cases measurement with
  | failure => simp [take, updateError, tallied, List.countP_append, Measurement.meets, Measurement.isFailure]
  | value value size =>
      simp only [take, update, tallied, List.map_map, List.length_append, List.length_singleton, List.countP_append,
        Indicator.mk.injEq, true_and]
      refine ⟨List.map_congr_left fun entry _ => ?_, rfl⟩
      by_cases met : entry.2.isMet value size
      · simp [met, Measurement.meets]
      · simp [met, Measurement.meets]

theorem step_of_goesOn (indicator : Indicator α) {next : IndicatorStep α} (goesOn : next.isFlush = false) :
    indicator.step next = next.measurement?.elim indicator indicator.take := by
  cases next with
  | process fields =>
      rw [step, process_eq, IndicatorStep.measurement?]
      cases (Measurement.ofFields fields : Except MessageError (Measurement α)) with
      | error _ => rfl
      | ok _ => rfl
  | update => rfl
  | updateError => rfl
  | flush => cases goesOn

theorem step_tallied (conditions : Conditions α) (steps : List (IndicatorStep α)) (next : IndicatorStep α) :
    (tallied conditions (IndicatorStep.sinceFlush steps)).step next =
      tallied conditions (IndicatorStep.sinceFlush (steps ++ [next])) := by
  cases flushes : next.isFlush with
  | true =>
      cases next with
      | flush =>
          rw [IndicatorStep.sinceFlush_concat_flush]
          exact flushed_tallied conditions _
      | process => cases flushes
      | update => cases flushes
      | updateError => cases flushes
  | false =>
      rw [step_of_goesOn _ flushes, IndicatorStep.sinceFlush_concat flushes]
      cases next.measurement? with
      | none =>
          rw [Option.toList_none, List.append_nil]
          rfl
      | some measurement => exact take_tallied conditions _ measurement

/-- What is counted is what was measured since the last flush. -/
theorem run_tallied (conditions : Conditions α) (steps : List (IndicatorStep α)) :
    steps.foldl step (ofConditions conditions) = tallied conditions (IndicatorStep.sinceFlush steps) := by
  induction steps using List.reverseRecOn with
  | nil => rfl
  | append_singleton steps next ih => rw [List.foldl_concat, ih, step_tallied]

theorem conditionCount?_tallied (conditions : Conditions α) (measured : List (Measurement α)) (label : String) :
    (tallied conditions measured).conditionCount? label =
      (conditions.lookup label).map fun condition => measured.countP (Measurement.meets condition) := by
  unfold conditionCount? tallied
  induction conditions with
  | nil => rfl
  | cons entry rest ih =>
      obtain ⟨other, condition⟩ := entry
      by_cases own : label = other
      · simp [own]
      · have miss : (label == other) = false := by simpa using own
        rw [List.lookup_cons, miss, ← ih, List.map_cons, List.find?_cons_of_neg (by simpa using Ne.symm own)]

theorem report_tallied_perm (conditions : Conditions α) (measured : List (Measurement α)) (path : String)
    (timestamp : Nat) :
    let point := fun (name : String) (count : Nat) => (⟨joinPath path name, (count : α), timestamp⟩ : Datapoint α)
    ((tallied conditions measured).report path timestamp).Perm
      (point "count" measured.length ::
        conditions.map (fun entry => point ("count_" ++ entry.1) (measured.countP (Measurement.meets entry.2))) ++
        [point "error" (measured.countP Measurement.isFailure)]) := by
  intro point
  refine (sortByPath_perm _).trans (List.Perm.of_eq ?_)
  simp [statistics, tallied, point, Function.comp_def]

theorem process_or_refuse (indicator : Indicator α) (fields : Fields) :
    (∃ measurement, Measurement.ofFields fields = .ok measurement ∧
        indicator.process fields = .ok (indicator.take measurement)) ∨
      ∃ reason, (Measurement.ofFields fields : Except MessageError (Measurement α)) = .error reason ∧
        indicator.process fields = .error reason ∧ indicator.step (.process fields) = indicator := by
  rw [step, process_eq]
  cases (Measurement.ofFields fields : Except MessageError (Measurement α)) with
  | error reason => exact .inr ⟨reason, rfl, rfl, rfl⟩
  | ok measurement => exact .inl ⟨measurement, rfl, rfl⟩

/-- An indicator counts the measurements that it accepted since the last flush: all of them, those of failed operations,
and for each condition those that meet it. Fields that it refuses change nothing. A flush reports just these counts,
that of a condition under its label, and starts again from none. -/
theorem counts_since_flush (conditions : Conditions α) (steps : List (IndicatorStep α)) :
    let indicator := steps.foldl step (ofConditions conditions)
    let measured := IndicatorStep.sinceFlush steps
    let failures := measured.countP Measurement.isFailure
    let met := fun condition : Condition α => measured.countP (Measurement.meets condition)
    indicator.count = measured.length ∧ indicator.errors = failures ∧
      indicator.conditions = conditions.map (fun entry => ⟨entry.1, entry.2, met entry.2⟩) ∧
      (∀ label, indicator.conditionCount? label = (conditions.lookup label).map met) ∧
      (∀ condition, met condition + indicator.errors ≤ indicator.count) ∧
      (∀ fields, (∃ measurement, Measurement.ofFields fields = .ok measurement ∧
          indicator.process fields = .ok (indicator.take measurement)) ∨
        ∃ reason, (Measurement.ofFields fields : Except MessageError (Measurement α)) = .error reason ∧
          indicator.process fields = .error reason ∧ indicator.step (.process fields) = indicator) ∧
      ∀ address now seconds timestamp,
        let flushed := (MetricPlugin.flush (IndicatorFactory α) indicator address now seconds timestamp).value
        let point := fun (name : String) (count : Nat) =>
          (⟨joinPath address.path name, (count : α), timestamp⟩ : Datapoint α)
        flushed.1.Perm (point "count" measured.length ::
          conditions.map (fun entry => point ("count_" ++ entry.1) (met entry.2)) ++ [point "error" failures]) ∧
        flushed.2 = ofConditions conditions := by
  intro indicator measured failures met
  have tally : indicator = tallied conditions measured := run_tallied conditions steps
  have count : indicator.count = measured.length := congrArg Indicator.count tally
  have errors : indicator.errors = failures := congrArg Indicator.errors tally
  refine ⟨count, errors, congrArg Indicator.conditions tally, ?_, ?_, indicator.process_or_refuse, ?_⟩
  · rw [tally]
    exact conditionCount?_tallied conditions measured
  · rw [count, errors]
    exact fun condition => Measurement.countP_meets_add_failures condition measured
  · intro address now seconds timestamp
    rw [tally]
    exact ⟨report_tallied_perm conditions measured address.path timestamp, flushed_tallied conditions measured⟩

end Indicator

end MetricAggregation
