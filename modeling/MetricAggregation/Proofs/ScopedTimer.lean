import MetricAggregation.Proofs.Engine.Conservation
import MetricAggregation.Proofs.KeyNormalization
import MetricAggregation.ScopedTimer

/-!
Scoped timers count under the key as it is normalized: normalization keeps a suffix that could stand in a key,
whatever stands before it. Over exact arithmetic the start and the end of some work change an engine by a few
updates that are never refused, except that the duration of work under no key is.
-/

namespace MetricAggregation

namespace ScopedTimer

theorem normalize_inFlight (key : String) : Key.normalize (inFlight key) = inFlight (Key.normalize key) :=
  Key.normalize_append key (by decide)

theorem normalize_outcome (key : String) (succeeded : Bool) :
    Key.normalize (outcome key succeeded) = outcome (Key.normalize key) succeeded := by
  cases succeeded with
  | true => exact Key.normalize_append key (by decide)
  | false => exact Key.normalize_append key (by decide)

theorem inFlight_inj {left right : String} : inFlight left = inFlight right ↔ left = right :=
  String.append_left_inj ".in_flight"

theorem outcome_ne_inFlight (left right : String) (succeeded : Bool) : outcome left succeeded ≠ inFlight right := by
  intro same
  have last := congrArg (fun text => text.toList.getLast?) same
  cases succeeded <;> simp [outcome, inFlight] at last

theorem outcome_inj {left right : String} {leftSucceeded rightSucceeded : Bool} :
    outcome left leftSucceeded = outcome right rightSucceeded ↔
      left = right ∧ leftSucceeded = rightSucceeded := by
  constructor
  · intro same
    have last := congrArg (fun text => text.toList.getLast?) same
    cases leftSucceeded <;> cases rightSucceeded <;> simp [outcome] at last
    · exact ⟨(String.append_left_inj ".error").mp same, rfl⟩
    · exact ⟨(String.append_left_inj ".success").mp same, rfl⟩
  · rintro ⟨rfl, rfl⟩
    rfl

theorem inFlight_ne_empty (key : String) : inFlight key ≠ "" := by
  intro none
  have length := congrArg String.length none
  simp [inFlight] at length

theorem outcome_ne_empty (key : String) (succeeded : Bool) : outcome key succeeded ≠ "" := by
  intro none
  have length := congrArg String.length none
  cases succeeded <;> simp [outcome] at length

end ScopedTimer

section Exact

variable {α φ μ : Type} [ExactNumber α]

theorem Duration.milliseconds_nonneg (duration : Duration) : (0 : α) ≤ duration.milliseconds α := by
  unfold milliseconds seconds
  positivity

namespace Engine

theorem directKey_of_named {key : String} (named : Key.normalize key ≠ "") (value : α) :
    directKey key value = .ok (Key.normalize key) := by
  simp [directKey, ExactNumber.isFinite_eq, named]

theorem directKey_of_unnamed {key : String} (unnamed : Key.normalize key = "") (value : α) :
    directKey key value = .error .emptyKey := by
  simp [directKey, ExactNumber.isFinite_eq, unnamed]

end Engine

namespace ScopedTimer

open Engine

theorem directKey_inFlight (key : String) (value : α) :
    directKey (inFlight key) value = .ok (inFlight (Key.normalize key)) := by
  rw [directKey_of_named (by rw [normalize_inFlight]; exact inFlight_ne_empty _), normalize_inFlight]

theorem directKey_outcome (key : String) (succeeded : Bool) (value : α) :
    directKey (outcome key succeeded) value = .ok (outcome (Key.normalize key) succeeded) := by
  rw [directKey_of_named (by rw [normalize_outcome]; exact outcome_ne_empty _ _), normalize_outcome]

theorem begin_eq (engine : Engine α φ μ) (key : String) :
    begin engine key =
      (⟨key, engine.stopwatch, false⟩, engine.updateCounter (inFlight (Key.normalize key)) 1 1) := by
  simp only [begin, increment, directKey_inFlight]
  rfl

/-- The end of some work: it is in flight no more, its duration is recorded or discarded, and its outcome is
counted. -/
theorem finish_eq (timer : ScopedTimer) (engine : Engine α φ μ) :
    timer.finish engine =
      let key := Key.normalize timer.key
      let landed := engine.updateCounter (inFlight key) (-1) 1
      let recorded := if key = "" then landed.discard
        else landed.updateTimer key ((timer.elapsed engine).milliseconds α)
      recorded.updateCounter (outcome key timer.succeeded) 1 1 := by
  by_cases unnamed : Key.normalize timer.key = ""
  · simp only [finish, increment, recordTiming, directKey_inFlight, directKey_outcome, unnamed,
      directKey_of_unnamed unnamed, if_true]
  · simp only [finish, increment, recordTiming, directKey_inFlight, directKey_outcome, unnamed,
      directKey_of_named unnamed, if_false]

end ScopedTimer

end Exact

end MetricAggregation
