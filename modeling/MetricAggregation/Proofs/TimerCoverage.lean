import Mathlib.Data.List.DropRight
import MetricAggregation.Proofs.Aggregates
import MetricAggregation.Proofs.TimerCoherence

/-!
What the statistics of a timer cover, after any durations and flushes: a timer that is cleared by flushes describes the
durations since the last flush, and any other one all of its durations. Only those that are not negative are described,
while the count is of all durations since the last flush either way.
-/

namespace MetricAggregation

namespace TimerStep

variable {α : Type}

def duration? : TimerStep α → Option α
  | update duration _ => some duration
  | flush _ _ => none

/-- The durations behind the last flush. -/
def sinceFlush (steps : List (TimerStep α)) : List α :=
  (steps.rtakeWhile fun use => use.duration?.isSome).filterMap duration?

@[simp] theorem sinceFlush_concat_update (steps : List (TimerStep α)) (duration now : α) :
    sinceFlush (steps ++ [.update duration now]) = sinceFlush steps ++ [duration] := by
  simp [sinceFlush, duration?]

@[simp] theorem sinceFlush_concat_flush (steps : List (TimerStep α)) (timestamp : Nat) (now : α) :
    sinceFlush (steps ++ [.flush timestamp now]) = [] := by
  simp [sinceFlush, duration?]

variable [Number α]

/-- The durations that a timer describes by its policy. -/
def covered (policy : ReservoirPolicy) (steps : List (TimerStep α)) : List α :=
  (match policy with
    | .resetOnFlush => sinceFlush steps
    | .continuous => steps.filterMap duration?).filter fun duration => decide (0 ≤ duration)

theorem covered_concat_update (policy : ReservoirPolicy) (steps : List (TimerStep α)) (duration now : α) :
    covered policy (steps ++ [.update duration now]) =
      covered policy steps ++ if 0 ≤ duration then [duration] else [] := by
  cases policy <;> simp [covered, List.filter_append, List.filter_singleton, duration?]

theorem covered_concat_flush (policy : ReservoirPolicy) (steps : List (TimerStep α)) (timestamp : Nat) (now : α) :
    covered policy (steps ++ [.flush timestamp now]) =
      match policy with
      | .resetOnFlush => []
      | .continuous => covered policy steps := by
  cases policy <;> simp [covered, duration?]

/-- What a step does to the histogram of a timer. -/
def uses (policy : ReservoirPolicy) : TimerStep α → List (SampleStep α Unit)
  | update duration now => if 0 ≤ duration then [.push duration now ()] else []
  | flush _ now =>
    match policy with
    | .resetOnFlush => [.clear now]
    | .continuous => []

theorem pushedIn_uses (policy : ReservoirPolicy) (steps : List (TimerStep α)) :
    pushedIn (steps.flatMap (uses policy)) = covered policy steps := by
  induction steps using List.reverseRecOn with
  | nil => cases policy <;> rfl
  | append_singleton steps use ih =>
      rw [List.flatMap_append, List.flatMap_singleton, pushedIn, List.foldl_append, ← pushedIn, ih]
      cases use with
      | update duration now =>
          rw [covered_concat_update, uses]
          split
          · rfl
          · exact (List.append_nil _).symm
      | flush timestamp now =>
          rw [covered_concat_flush]
          cases policy <;> rfl

end TimerStep

namespace Timer

open TimerStep (sinceFlush covered uses)

variable {α : Type} [Number α]

theorem policy_run (steps : List (TimerStep α)) :
    ∀ timer : Timer α, (steps.foldl step timer).policy = timer.policy := by
  induction steps with
  | nil => exact fun _ => rfl
  | cons use rest ih =>
      intro timer
      rw [List.foldl_cons, ih]
      cases use with
      | update duration now => exact timer.policy_update duration now
      | flush timestamp now => rfl

theorem count_run (policy : ReservoirPolicy) (start : α) (draws : Nat → Draw α) (steps : List (TimerStep α)) :
    (steps.foldl step (new policy start draws)).count = (sinceFlush steps).length := by
  induction steps using List.reverseRecOn with
  | nil => rfl
  | append_singleton steps use ih =>
      rw [List.foldl_concat]
      cases use with
      | update duration now => simp [step, ih]
      | flush timestamp now =>
          rw [TimerStep.sinceFlush_concat_flush]
          rfl

theorem histogram_step (timer : Timer α) (use : TimerStep α) :
    (timer.step use).histogram = (uses timer.policy use).foldl Histogram.step timer.histogram := by
  cases use with
  | update duration now =>
      rw [step, update, uses]
      split
      · rfl
      · rfl
  | flush timestamp now =>
      unfold step flushed uses
      dsimp only
      cases timer.policy <;> rfl

theorem histogram_run (steps : List (TimerStep α)) : ∀ timer : Timer α,
    (steps.foldl step timer).histogram = (steps.flatMap (uses timer.policy)).foldl Histogram.step timer.histogram := by
  induction steps with
  | nil => exact fun _ => rfl
  | cons use rest ih =>
      intro timer
      have kept : (timer.step use).policy = timer.policy := policy_run [use] timer
      rw [List.foldl_cons, ih, List.flatMap_cons, List.foldl_append, histogram_step, kept]

/-- The histogram of a timer goes through what its steps do to it, from an empty reservoir of the size and the decay
factor that timers have. -/
theorem histogram_run_new (policy : ReservoirPolicy) (start : α) (draws : Nat → Draw α) (steps : List (TimerStep α)) :
    (steps.foldl step (new policy start draws)).histogram = (steps.flatMap (uses policy)).foldl Histogram.step
      (.ofReservoir (.ofSample (.chosen policy Reservoir.defaultSize Reservoir.defaultAlpha start) draws)) := by
  rw [histogram_run]
  cases policy <;> rfl

theorem percentiles_run (start : α) (draws : Nat → Draw α) {steps : List (TimerStep α)}
    (room : (covered .resetOnFlush steps).length ≤ Reservoir.defaultSize) (percentiles : List α) :
    (steps.foldl step (new .resetOnFlush start draws)).histogram.percentiles percentiles =
      Histogram.scoresAmong (covered .resetOnFlush steps) percentiles := by
  rw [← TimerStep.pushedIn_uses] at room
  rw [histogram_run_new, Histogram.percentiles_run _ _ _ room, TimerStep.pushedIn_uses]

/-- After any durations and flushes, a timer counts the durations since the last flush, and its histogram tells of those
that it covers what a new histogram would, whatever its reservoir, in which they were recorded in their order at any
times. A timer that is cleared by flushes covers the durations since the last one, and up to the size of its sample its
percentiles are those of all of them; any other timer covers all its durations, and a flush leaves its histogram as it
is. Only one of the former can have nothing to report. -/
theorem run_describes (policy : ReservoirPolicy) (start : α) (draws : Nat → Draw α) (steps : List (TimerStep α)) :
    let timer := steps.foldl step (new policy start draws)
    timer.count = (sinceFlush steps).length ∧
      (∀ (reservoir : Reservoir α) (others : List (SampleStep α Unit)), pushedIn others = covered policy steps →
        timer.histogram.SameAggregates (others.foldl Histogram.step (.ofReservoir reservoir))) ∧
      (policy = .resetOnFlush → (covered policy steps).length ≤ 1028 → ∀ percentiles,
        timer.histogram.percentiles percentiles = Histogram.scoresAmong (covered policy steps) percentiles) ∧
      (policy = .continuous → ∀ timestamp now, (timer.flushed timestamp now).histogram = timer.histogram) ∧
      (timer.isIdle ↔ policy = .resetOnFlush ∧ sinceFlush steps = []) := by
  intro timer
  have kind : timer.policy = policy := policy_run steps _
  have count : timer.count = (sinceFlush steps).length := count_run policy start draws steps
  refine ⟨count, fun reservoir others same => ?_, ?_, ?_, ?_⟩
  · apply Histogram.sameAggregates_of_totals
    rw [histogram_run_new, Histogram.totals_run, Histogram.totals_run, TimerStep.pushedIn_uses, same]
  · rintro rfl room
    exact percentiles_run start draws room
  · rintro rfl timestamp now
    rw [flushed, kind]
  · rw [isIdle_iff, kind, count, List.length_eq_zero_iff]

end Timer

end MetricAggregation
