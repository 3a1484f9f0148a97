import MetricAggregation.Proofs.Engine.Acceptance
import MetricAggregation.Proofs.Engine.Reception

/-!
With the standard metric types, what an engine accepts and notes does not depend on its state: any two
such engines with the same rules accept the same updates in a step and note the same.
-/

namespace MetricAggregation.Engine

variable {α : Type} [Number α] {rules : List (Rule α)}

/-- An engine with the standard metric types and some rules, in a state that it can be in. -/
def Standard (rules : List (Rule α)) (engine : Engine α (StandardFactory α) (StandardMetric α)) : Prop :=
  engine.AllExtensions (StandardFactory.registry rules) StandardMetric.Under

theorem invariant_standard : Invariant (Standard rules) := (StandardMetric.lasting rules).invariant

omit [Number α] in
theorem standard_new (settings : Settings) (chance : Chance α) (rules : List (Rule α)) (now : α) :
    Standard rules (.new settings chance (StandardFactory.registry rules) now) :=
  allExtensions_new settings chance _ now _

section

variable {φ μ : Type} [MetricFactory φ] [MetricPlugin φ μ α] {engine : Engine α φ μ}
variable {bytes : List UInt8}

theorem noteOf_of_accepts {message : Message} (read : readMessage bytes = .ok message)
    (accepted : engine.Accepts bytes) : engine.noteOf bytes = .received message.fields.tag := by
  obtain ⟨other, updated, otherRead, applied⟩ := accepted
  rw [read, Except.ok.injEq] at otherRead
  subst otherRead
  simp only [noteOf, read, applied]

theorem noteOf_of_refused (refused : ¬engine.Accepts bytes) : engine.noteOf bytes = .discarded := by
  unfold noteOf
  cases read : readMessage bytes with
  | error _ => rfl
  | ok message =>
      dsimp only
      cases applied : (engine.apply message).value with
      | error _ => rfl
      | ok updated => exact absurd ⟨message, updated, read, applied⟩ refused

theorem taken?_of_accepts {message : Message} (read : readMessage bytes = .ok message)
    (accepted : engine.Accepts bytes) : engine.taken? bytes = (Update.ofMessage message).toOption := by
  obtain ⟨other, updated, otherRead, applied⟩ := accepted
  rw [read, Except.ok.injEq] at otherRead
  subst otherRead
  simp only [taken?, read, applied]

end

variable {left right : Engine α (StandardFactory α) (StandardMetric α)}

theorem accepts_iff_of_standard (leftStandard : Standard rules left) (rightStandard : Standard rules right)
    (bytes : List UInt8) : left.Accepts bytes ↔ right.Accepts bytes := by
  rw [accepts_standard_iff leftStandard, accepts_standard_iff rightStandard]

theorem noteOf_eq_of_standard (leftStandard : Standard rules left) (rightStandard : Standard rules right)
    (bytes : List UInt8) : left.noteOf bytes = right.noteOf bytes := by
  have same := accepts_iff_of_standard leftStandard rightStandard bytes
  by_cases accepted : left.Accepts bytes
  · obtain ⟨message, _, read, _⟩ := id accepted
    rw [noteOf_of_accepts read accepted, noteOf_of_accepts read (same.mp accepted)]
  · rw [noteOf_of_refused accepted, noteOf_of_refused (mt same.mpr accepted)]

theorem taken?_eq_of_standard (leftStandard : Standard rules left) (rightStandard : Standard rules right)
    (bytes : List UInt8) : left.taken? bytes = right.taken? bytes := by
  have same := accepts_iff_of_standard leftStandard rightStandard bytes
  by_cases accepted : left.Accepts bytes
  · obtain ⟨message, _, read, _⟩ := id accepted
    rw [taken?_of_accepts read accepted, taken?_of_accepts read (same.mp accepted)]
  · rw [Option.not_isSome_iff_eq_none.mp (mt taken?_isSome_iff.mp accepted),
      Option.not_isSome_iff_eq_none.mp (mt taken?_isSome_iff.mp (mt same.mpr accepted))]

theorem standard_process (standard : Standard rules left) (bytes : List UInt8) :
    Standard rules (left.process bytes) :=
  invariant_standard.step (.message bytes) standard

theorem takenAll_eq_of_standard (lines : List (List UInt8)) :
    ∀ {left right : Engine α (StandardFactory α) (StandardMetric α)}, Standard rules left →
      Standard rules right → left.takenAll lines = right.takenAll lines := by
  induction lines with
  | nil => exact fun _ _ => rfl
  | cons bytes rest ih =>
      intro left right leftStandard rightStandard
      rw [takenAll, takenAll, taken?_eq_of_standard leftStandard rightStandard,
        ih (standard_process leftStandard bytes) (standard_process rightStandard bytes)]

theorem notesOf_eq_of_standard (lines : List (List UInt8)) :
    ∀ {left right : Engine α (StandardFactory α) (StandardMetric α)}, Standard rules left →
      Standard rules right → left.notesOf lines = right.notesOf lines := by
  induction lines with
  | nil => exact fun _ _ => rfl
  | cons bytes rest ih =>
      intro left right leftStandard rightStandard
      rw [notesOf, notesOf, noteOf_eq_of_standard leftStandard rightStandard,
        ih (standard_process leftStandard bytes) (standard_process rightStandard bytes)]

theorem accepted_eq_of_standard (leftStandard : Standard rules left)
    (rightStandard : Standard rules right) (step : Step α) : left.accepted step = right.accepted step := by
  cases step with
  | message bytes => simp only [accepted, taken?_eq_of_standard leftStandard rightStandard]
  | packet bytes => exact takenAll_eq_of_standard _ leftStandard rightStandard
  | increment | timing | tick | flush | setWallClock | setStopwatch => rfl

theorem notes_eq_of_standard (leftStandard : Standard rules left)
    (rightStandard : Standard rules right) (step : Step α) : left.notes step = right.notes step := by
  cases step with
  | message bytes => simp only [notes, noteOf_eq_of_standard leftStandard rightStandard]
  | packet bytes => exact notesOf_eq_of_standard _ leftStandard rightStandard
  | increment | timing | tick | flush | setWallClock | setStopwatch => rfl

theorem acceptedIn_eq_of_standard (steps : List (Step α)) :
    ∀ {left right : Engine α (StandardFactory α) (StandardMetric α)}, Standard rules left →
      Standard rules right → left.acceptedIn steps = right.acceptedIn steps := by
  induction steps with
  | nil => exact fun _ _ => rfl
  | cons first rest ih =>
      intro left right leftStandard rightStandard
      rw [acceptedIn, acceptedIn, accepted_eq_of_standard leftStandard rightStandard,
        ih (invariant_standard.step first leftStandard) (invariant_standard.step first rightStandard)]

theorem notesSince_eq_of_standard (steps : List (Step α)) (noted : List Note) :
    ∀ {left right : Engine α (StandardFactory α) (StandardMetric α)}, Standard rules left →
      Standard rules right → left.notesSince noted steps = right.notesSince noted steps := by
  induction steps generalizing noted with
  | nil => exact fun _ _ => rfl
  | cons first rest ih =>
      intro left right leftStandard rightStandard
      have leftNext := invariant_standard.step first leftStandard
      have rightNext := invariant_standard.step first rightStandard
      cases first with
      | flush interval percent => exact ih [] leftNext rightNext
      | message | packet | increment | timing | tick | setWallClock | setStopwatch =>
          rw [notesSince, notesSince, since, since, notes_eq_of_standard leftStandard rightStandard]
          · exact ih _ leftNext rightNext
          · exact nofun
          · exact nofun

end MetricAggregation.Engine
