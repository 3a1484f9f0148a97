import Mathlib
import MetricAggregation.Proofs.Engine.Acceptance
import MetricAggregation.Proofs.Engine.Intervals
import MetricAggregation.Proofs.ExactNumber
import MetricAggregation.Proofs.Measurements

/-!
What of a metric does not depend on the order of its updates. Over exact numbers these are the whole of a
counter and of a service level indicator, the count of a meter, and the digest of a timer.
-/

namespace MetricAggregation

section Digests

variable {α : Type} [ExactNumber α]

theorem Counter.update_comm (counter : Counter α) (first firstRate second secondRate : α) :
    (counter.update first firstRate).update second secondRate =
      (counter.update second secondRate).update first firstRate := by
  simp only [update, add_right_comm]

/-- How many durations a timer has, and the count, sum and extremes of its histogram. -/
structure TimerDigest (α : Type) where
  count : Nat
  recorded : Nat
  sum : α
  least? : Option α
  greatest? : Option α

def Timer.digest (timer : Timer α) : TimerDigest α :=
  ⟨timer.count, timer.histogram.count, timer.histogram.sum, timer.histogram.least?,
    timer.histogram.greatest?⟩

namespace TimerDigest

def zero : TimerDigest α := ⟨0, 0, 0, none, none⟩

def update (digest : TimerDigest α) (duration : α) : TimerDigest α :=
  if 0 ≤ duration then
    ⟨digest.count + 1, digest.recorded + 1, digest.sum + duration,
      some (Histogram.lesser digest.least? duration), some (Histogram.greater digest.greatest? duration)⟩
  else { digest with count := digest.count + 1 }

theorem lesser_comm (least? : Option α) (first second : α) :
    Histogram.lesser (some (Histogram.lesser least? first)) second =
      Histogram.lesser (some (Histogram.lesser least? second)) first := by
  have lesser_some (least value : α) : Histogram.lesser (some least) value = min least value := by
    rw [Histogram.lesser, min_def]
  cases least? with
  | none => exact (lesser_some first second).trans ((min_comm first second).trans (lesser_some second first).symm)
  | some least => simp only [lesser_some, min_right_comm]

theorem greater_comm (greatest? : Option α) (first second : α) :
    Histogram.greater (some (Histogram.greater greatest? first)) second =
      Histogram.greater (some (Histogram.greater greatest? second)) first := by
  have greater_some (greatest value : α) : Histogram.greater (some greatest) value = max greatest value := by
    rw [Histogram.greater, max_def']
  cases greatest? with
  | none => exact (greater_some first second).trans ((max_comm first second).trans (greater_some second first).symm)
  | some greatest => simp only [greater_some, max_right_comm]

theorem update_comm (digest : TimerDigest α) (first second : α) :
    (digest.update first).update second = (digest.update second).update first := by
  unfold update
  split_ifs with secondCounts firstCounts firstCounts
  · simp only [add_right_comm, lesser_comm, greater_comm]
  · rfl
  · rfl
  · rfl

end TimerDigest

theorem Timer.digest_update (timer : Timer α) (duration now : α) :
    (timer.update duration now).digest = timer.digest.update duration := by
  unfold Timer.update TimerDigest.update
  split
  · rfl
  · rfl

end Digests

namespace Engine

section

variable {α φ μ β : Type} [Number α] [MetricFactory φ] [MetricPlugin φ μ α]
variable {kind : MetricKind} {key : String} {good : Engine α φ μ → Prop}
variable {seen : Held α μ kind → β} {change : β → Update α → β}

/-- What is seen of a metric is changed by its updates, alike in whatever order they come. -/
structure Commuting (kind : MetricKind) (key : String) (good : Engine α φ μ → Prop)
    (seen : Held α μ kind → β) (change : β → Update α → β) : Prop where
  invariant : Invariant good
  takes {engine after : Engine α φ μ} {update : Update α} :
    good engine → engine.Takes update after → update.target = (kind, key) →
      seen (after.held kind key) = change (seen (engine.held kind key)) update
  commutes {first second : Update α} (view : β) :
    first.target = (kind, key) → second.target = (kind, key) →
      change (change view first) second = change (change view second) first

theorem Commuting.driven (commuting : Commuting kind key good seen change) :
    Driven kind key good seen change :=
  ⟨commuting.invariant, commuting.takes⟩

theorem Commuting.eq_of_perm (commuting : Commuting kind key good seen change)
    {start left right : Engine α φ μ} {first second : List (Update α)} (holds : good start)
    (leftAbsorbed : start.Absorbs first left) (rightAbsorbed : start.Absorbs second right)
    (same : first.Perm second) : seen (left.held kind key) = seen (right.held kind key) := by
  rw [commuting.driven.absorbs leftAbsorbed holds, commuting.driven.absorbs rightAbsorbed holds]
  -- Only the updates of this metric are applied, and these commute.
  apply (same.filter _).foldl_eq'
  intro one oneMember other otherMember view
  have oneOwn := (List.mem_filter.mp oneMember).2
  have otherOwn := (List.mem_filter.mp otherMember).2
  exact commuting.commutes view (of_decide_eq_true oneOwn) (of_decide_eq_true otherOwn)

end

section Kinds

variable {α φ μ : Type} [ExactNumber α] [MetricFactory φ] [MetricPlugin φ μ α]

theorem counter_commuting (key : String) :
    Commuting (φ := φ) (μ := μ) .counter key (fun _ => True) (fun counter : Option (Counter α) => counter)
      fun counter update => match update with
        | .count _ value rate => some ((counter.getD .zero).update value rate)
        | _ => counter where
  invariant := .trivial
  takes := (counter_driven key).takes
  commutes := by
    intro first second view firstOwn secondOwn
    cases first with
    | count _ firstValue firstRate =>
        cases second with
        | count _ secondValue secondRate =>
            exact congrArg some (Counter.update_comm _ firstValue firstRate secondValue secondRate)
        | duration | gauge | events | further => cases secondOwn
    | duration | gauge | events | further => cases firstOwn

theorem timer_commuting (key : String) :
    Commuting (φ := φ) (μ := μ) .timer key (fun _ => True)
      (fun timer : Option (Timer α) => timer.map Timer.digest)
      fun digest update => match update with
        | .duration _ value => some ((digest.getD .zero).update value)
        | _ => digest where
  invariant := .trivial
  takes := by
    intro engine after update _ takes own
    cases takes with
    | duration name value =>
        cases own
        change ((Table.upsert _ key _).find? key).map Timer.digest =
          some ((((engine.timers.find? key).map Timer.digest).getD .zero).update value)
        rw [Table.find?_upsert, if_pos rfl, Option.map_some, Timer.digest_update]
        cases engine.timers.find? key with
        | none => rfl
        | some timer => rfl
    | count | gauge | events | further => cases own
  commutes := by
    intro first second view firstOwn secondOwn
    cases first with
    | duration _ firstValue =>
        cases second with
        | duration _ secondValue => exact congrArg some (TimerDigest.update_comm _ firstValue secondValue)
        | count | gauge | events | further => cases secondOwn
    | count | gauge | events | further => cases firstOwn

theorem meter_commuting (key : String) :
    Commuting (φ := φ) (μ := μ) .meter key (fun _ => True)
      (fun meter : Option (Meter α) => meter.map Meter.count)
      fun count update => match update with
        | .events _ number => some (count.getD 0 + number)
        | _ => count where
  invariant := .trivial
  takes := by
    intro engine after update _ takes own
    cases takes with
    | events name number =>
        cases own
        change ((Table.upsert _ key _).find? key).map Meter.count =
          some (((engine.meters.find? key).map Meter.count).getD 0 + number)
        rw [Table.find?_upsert, if_pos rfl, Option.map_some]
        cases engine.meters.find? key with
        | none => rfl
        | some meter => rfl
    | count | duration | gauge | further => cases own
  commutes := by
    intro first second view firstOwn secondOwn
    cases first with
    | events _ firstNumber =>
        cases second with
        | events _ secondNumber => exact congrArg some (add_right_comm _ firstNumber secondNumber)
        | count | duration | gauge | further => cases secondOwn
    | count | duration | gauge | further => cases firstOwn

end Kinds

section Indicators

variable {α : Type} [Number α] {settings : Settings} {rules : List (Rule α)}

def ruledIndicator (settings : Settings) (rules : List (Rule α)) (key : String) : Indicator α :=
  .ofConditions (.ofRules rules (settings.address "SLI" key).path)

/-- An indicator after a message, or a fresh one after that if there was none. -/
def takeFields (fresh : Indicator α) (indicator : Option (Indicator α)) (fields : Fields) :
    Option (Indicator α) :=
  match Measurement.ofFields fields with
  | .ok measurement => some ((indicator.getD fresh).take measurement)
  | .error _ => indicator

theorem takeFields_comm (fresh : Indicator α) (indicator : Option (Indicator α)) (first second : Fields) :
    takeFields fresh (takeFields fresh indicator first) second =
      takeFields fresh (takeFields fresh indicator second) first := by
  unfold takeFields
  cases (Measurement.ofFields first : Except MessageError (Measurement α)) with
  | error _ => rfl
  | ok firstRead =>
      cases (Measurement.ofFields second : Except MessageError (Measurement α)) with
      | error _ => rfl
      | ok secondRead => exact congrArg some (Indicator.take_comm _ firstRead secondRead)

theorem extensionFor_indicator {engine : Engine α (StandardFactory α) (StandardMetric α)}
    (chosen : engine.settings = settings)
    (all : engine.AllExtensions (StandardFactory.registry rules) StandardMetric.Under) {key : String}
    {metric : StandardMetric α} (found : engine.extensionFor "sli" key = .ok metric) :
    metric = .inr (((engine.extension? "sli" key).bind Sum.getRight?).getD
      (ruledIndicator settings rules key)) := by
  rcases (StandardMetric.lasting rules).extensionFor all found with ⟨other, _⟩ | ⟨_, indicator, rfl⟩
  · simp at other
  · rcases extensionFor_cases found with present | ⟨absent, factory, registered, built⟩
    · rw [present]
      rfl
    · rw [all.1, StandardFactory.find?_registry, if_pos rfl, Option.some.injEq] at registered
      subst registered
      rw [absent, built, chosen]
      rfl

theorem indicator_commuting (key : String) :
    Commuting (.extension "sli") key
      (fun engine : Engine α (StandardFactory α) (StandardMetric α) => engine.settings = settings ∧
        engine.AllExtensions (StandardFactory.registry rules) StandardMetric.Under)
      (fun metric : Option (StandardMetric α) => metric.bind Sum.getRight?)
      fun indicator update => match update with
        | .further _ _ fields => takeFields (ruledIndicator settings rules key) indicator fields
        | _ => indicator where
  invariant := (invariant_settings settings).and (StandardMetric.lasting rules).invariant
  takes := by
    rintro engine after update ⟨chosen, all⟩ takes own
    cases takes with
    | @further tag name fields metric changed found processed =>
        cases own
        change ((engine.putExtension "sli" key changed).extension? "sli" key).bind Sum.getRight? =
          takeFields (ruledIndicator settings rules key)
            ((engine.extension? "sli" key).bind Sum.getRight?) fields
        obtain rfl := extensionFor_indicator chosen all found
        obtain ⟨counted, taken, rfl⟩ := Except.map_eq_ok_iff.mp processed
        obtain ⟨measurement, read, rfl⟩ :=
          Except.map_eq_ok_iff.mp ((Indicator.process_eq _ fields).symm.trans taken)
        rw [extension?_putExtension, if_pos ⟨rfl, rfl⟩, takeFields, read]
        rfl
    | count | duration | gauge | events => cases own
  commutes := by
    intro first second view firstOwn secondOwn
    cases first with
    | further _ _ firstFields =>
        cases second with
        | further _ _ secondFields => exact takeFields_comm _ view firstFields secondFields
        | count | duration | gauge | events => cases secondOwn
    | count | duration | gauge | events => cases firstOwn

end Indicators

end Engine

end MetricAggregation
