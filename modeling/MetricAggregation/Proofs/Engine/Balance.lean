import Mathlib.Algebra.BigOperators.Group.List.Basic
import MetricAggregation.Proofs.Engine.Attribution
import MetricAggregation.Proofs.Engine.Isolation

/-!
Accounts of a metric over a run: what comes in by updates, what waits, and what flushes pay out.
-/

namespace MetricAggregation.Engine

variable {α φ μ M : Type} [Number α] [MetricFactory φ] [MetricPlugin φ μ α] [AddMonoid M]
variable {kind : MetricKind} {key : String} {good : Engine α φ μ → Prop}
variable {pending : Held α μ kind → M} {worth : Update α → M} {paid : List (Attributed α) → M}

/-- An account of a metric that balances: an update adds its worth to what is pending, and a flush takes
out of it what it pays. -/
structure Balanced (kind : MetricKind) (key : String) (good : Engine α φ μ → Prop)
    (pending : Held α μ kind → M) (worth : Update α → M) (paid : List (Attributed α) → M) : Prop where
  invariant : Invariant good
  unticked : kind ≠ .meter
  others {update : Update α} : update.target ≠ (kind, key) → worth update = 0
  takes {engine after : Engine α φ μ} {update : Update α} :
    good engine → engine.Takes update after → update.target = (kind, key) →
      pending (after.held kind key) = pending (engine.held kind key) + worth update
  flush {engine : Engine α φ μ} (interval : Duration) (percent : Nat) :
    good engine →
      paid (engine.attributedFlush interval percent) +
        pending ((engine.flush interval percent).2.held kind key) = pending (engine.held kind key)

theorem Balanced.absorbs (balanced : Balanced kind key good pending worth paid)
    {before after : Engine α φ μ} {updates : List (Update α)} (absorbed : before.Absorbs updates after) :
    good before →
      pending (after.held kind key) = pending (before.held kind key) + (updates.map worth).sum := by
  induction absorbed with
  | refl => simp
  | @unseen before middle after updates same rest ih =>
      intro holds
      have agree : Agree kind key middle before := .of_bare same
      rw [ih (balanced.invariant.bare same holds), agree.held]
  | @take before middle after update updates takes rest ih =>
      intro holds
      rw [ih (balanced.invariant.takes takes holds), List.map_cons, List.sum_cons, ← add_assoc]
      by_cases own : update.target = (kind, key)
      · rw [balanced.takes holds takes own]
      · rw [(agree_of_takes_other takes own).held, balanced.others own, add_zero]

theorem Balanced.step (balanced : Balanced kind key good pending worth paid) {engine : Engine α φ μ}
    (holds : good engine) (step : Step α) :
    ((engine.attributedReport step).toList.map paid).sum + pending ((engine.step step).2.held kind key) =
      pending (engine.held kind key) + ((engine.accepted step).map worth).sum := by
  rcases engine.step_cases step with
    ⟨silent, absorbed⟩ | rfl | ⟨interval, percent, rfl⟩ | ⟨seconds, rfl⟩
  · rw [← map_point_attributedReport, Option.map_eq_none_iff] at silent
    rw [silent, balanced.absorbs absorbed holds]
    simp
  · have same : (engine.step .tick).2.held kind key = engine.held kind key :=
      engine.held_tickMeters balanced.unticked
    simp [attributedReport, accepted, same]
  · have settled := balanced.flush interval percent holds
    change _ + pending ((engine.flush interval percent).2.held kind key) = _
    simpa [attributedReport, accepted] using settled
  · have same : (engine.step (.setWallClock seconds)).2.held kind key = engine.held kind key := by
      cases kind <;> rfl
    simp [attributedReport, accepted, same]

/-- Over a run, all that is paid and what is pending at the end are what was pending at the start and the
worth of all that was accepted. -/
theorem Balanced.run (balanced : Balanced kind key good pending worth paid) (steps : List (Step α)) :
    ∀ {engine : Engine α φ μ}, good engine →
      ((engine.attributedReports steps).map paid).sum + pending ((engine.run steps).2.held kind key) =
        pending (engine.held kind key) + ((engine.acceptedIn steps).map worth).sum := by
  induction steps with
  | nil =>
      intro engine _
      change _ + pending (engine.held kind key) = _
      simp [attributedReports, acceptedIn]
  | cons first rest ih =>
      intro engine holds
      have later := ih (balanced.invariant.step first holds)
      have now := balanced.step holds first
      change _ + pending (((engine.step first).2.run rest).2.held kind key) = _
      simp only [attributedReports, acceptedIn, List.map_append, List.sum_append]
      rw [add_assoc, later, ← add_assoc, now, add_assoc]

theorem Balanced.run_of_nothing (balanced : Balanced kind key good pending worth paid)
    (steps : List (Step α)) (start : Engine α φ μ) (holds : good start)
    (nothing : pending (start.held kind key) = 0) :
    ((start.attributedReports steps).map paid).sum + pending ((start.run steps).2.held kind key) =
      ((start.acceptedIn steps).map worth).sum := by
  rw [balanced.run steps holds, nothing, zero_add]

end MetricAggregation.Engine
