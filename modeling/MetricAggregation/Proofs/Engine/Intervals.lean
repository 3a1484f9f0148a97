import MetricAggregation.Proofs.Engine.Isolation

/-!
What is seen of a metric and is driven by its updates alone. Until the next flush it depends on where it
started and on the updates that were accepted, and on nothing else.
-/

namespace MetricAggregation

namespace Engine

section Driven

variable {α φ μ β : Type} [Number α] [MetricFactory φ] [MetricPlugin φ μ α]
variable {kind : MetricKind} {key : String} {good : Engine α φ μ → Prop}
variable {seen : Held α μ kind → β} {change : β → Update α → β}

/-- What is seen of a metric is changed by its updates, and by how they change what was seen before. -/
structure Driven (kind : MetricKind) (key : String) (good : Engine α φ μ → Prop)
    (seen : Held α μ kind → β) (change : β → Update α → β) : Prop where
  invariant : Invariant good
  takes {engine after : Engine α φ μ} {update : Update α} :
    good engine → engine.Takes update after → update.target = (kind, key) →
      seen (after.held kind key) = change (seen (engine.held kind key)) update

theorem Driven.absorbs (driven : Driven kind key good seen change) {before after : Engine α φ μ}
    {updates : List (Update α)} (absorbed : before.Absorbs updates after) :
    good before →
      seen (after.held kind key) =
        (updates.filter fun update => update.target = (kind, key)).foldl change
          (seen (before.held kind key)) := by
  induction absorbed with
  | refl => exact fun _ => rfl
  | @unseen before middle after updates same rest ih =>
      intro holds
      have agree : Agree kind key middle before := .of_bare same
      rw [ih (driven.invariant.bare same holds), agree.held]
  | @take before middle after update updates takes rest ih =>
      intro holds
      rw [ih (driven.invariant.takes takes holds)]
      by_cases own : update.target = (kind, key)
      · rw [List.filter_cons_of_pos (by simpa using own), List.foldl_cons, driven.takes holds takes own]
      · rw [List.filter_cons_of_neg (by simpa using own), (agree_of_takes_other takes own).held]

/-- Steps of which none is a flush. -/
def Unflushed (steps : List (Step α)) : Prop := ∀ interval percent, .flush interval percent ∉ steps

omit [Number α] in
theorem Unflushed.head {first : Step α} {rest : List (Step α)} (unflushed : Unflushed (first :: rest))
    (interval : Duration) (percent : Nat) : first ≠ .flush interval percent :=
  fun flush => unflushed interval percent (flush ▸ List.mem_cons_self)

omit [Number α] in
theorem Unflushed.tail {first : Step α} {rest : List (Step α)} (unflushed : Unflushed (first :: rest)) :
    Unflushed rest :=
  fun interval percent member => unflushed interval percent (List.mem_cons_of_mem first member)

theorem Driven.step (driven : Driven kind key good seen change) (unticked : kind ≠ .meter)
    {engine : Engine α φ μ} (holds : good engine) (step : Step α)
    (unflushed : ∀ interval percent, step ≠ .flush interval percent) :
    seen ((engine.step step).2.held kind key) =
      ((engine.accepted step).filter fun update => update.target = (kind, key)).foldl change
        (seen (engine.held kind key)) := by
  rcases engine.step_cases step with ⟨_, absorbed⟩ | rfl | ⟨interval, percent, flush⟩ | ⟨seconds, rfl⟩
  · exact driven.absorbs absorbed holds
  · exact congrArg seen (engine.held_tickMeters unticked)
  · exact absurd flush (unflushed interval percent)
  · cases kind <;> rfl

theorem Driven.run (driven : Driven kind key good seen change) (unticked : kind ≠ .meter)
    (steps : List (Step α)) : ∀ {engine : Engine α φ μ}, good engine → Unflushed steps →
      seen ((engine.run steps).2.held kind key) =
        ((engine.acceptedIn steps).filter fun update => update.target = (kind, key)).foldl change
          (seen (engine.held kind key)) := by
  induction steps with
  | nil => exact fun _ _ => rfl
  | cons first rest ih =>
      intro engine holds unflushed
      have later := ih (driven.invariant.step first holds) unflushed.tail
      rw [driven.step unticked holds first unflushed.head] at later
      rw [acceptedIn, List.filter_append, List.foldl_append]
      exact later

/-- What is seen alike of a metric in two engines is seen alike after the same updates. -/
theorem Driven.run_eq (driven : Driven kind key good seen change) (unticked : kind ≠ .meter)
    {left right : Engine α φ μ} (leftGood : good left) (rightGood : good right) {steps : List (Step α)}
    (unflushed : Unflushed steps) (accepted : left.acceptedIn steps = right.acceptedIn steps)
    (same : seen (left.held kind key) = seen (right.held kind key)) :
    seen ((left.run steps).2.held kind key) = seen ((right.run steps).2.held kind key) := by
  rw [driven.run unticked steps leftGood unflushed, driven.run unticked steps rightGood unflushed, accepted, same]

/-- Counters are driven by their updates. -/
theorem counter_driven (key : String) :
    Driven (φ := φ) (μ := μ) .counter key (fun _ => True) (fun counter : Option (Counter α) => counter)
      fun counter update => match update with
        | .count _ value rate => some ((counter.getD .zero).update value rate)
        | _ => counter where
  invariant := .trivial
  takes := by
    intro engine after update _ takes own
    cases takes with
    | count name value rate =>
        cases own
        change (Table.upsert _ key _).find? key = _
        rw [Table.find?_upsert, if_pos rfl]
        rfl
    | duration | gauge | events | further => cases own

end Driven

end Engine

end MetricAggregation
