import MetricAggregation.Proofs.Timer

/-!
What a timer that is cleared by flushes has taken in since the last one. Up to the size of its sample this
decides all it reports but the rate; neither the random draws nor anything from before bears on it.
-/

namespace MetricAggregation

/-- What a timer has taken in since it was cleared: how many durations, what its histogram makes of those that
are not negative, and these themselves as long as the sample has room for all of them. -/
structure Intake (α : Type) where
  count : Nat
  recorded : Nat
  sum : α
  least? : Option α
  greatest? : Option α
  moments? : Option (Moments α)
  kept : List α

namespace Intake

variable {α : Type} [Number α]

def zero : Intake α := ⟨0, 0, 0, none, none, none, []⟩

def add (intake : Intake α) (duration : α) : Intake α :=
  if 0 ≤ duration then
    { count := intake.count + 1
      recorded := intake.recorded + 1
      sum := intake.sum + duration
      least? := some (Histogram.lesser intake.least? duration)
      greatest? := some (Histogram.greater intake.greatest? duration)
      moments? := some (Moments.add intake.moments? duration (intake.recorded + 1))
      kept := if intake.recorded < Reservoir.defaultSize then intake.kept ++ [duration] else [] }
  else { intake with count := intake.count + 1 }

theorem count_add (intake : Intake α) (duration : α) : (intake.add duration).count = intake.count + 1 := by
  unfold add
  split
  · rfl
  · rfl

end Intake

namespace Timer

variable {α : Type}

def intake (timer : Timer α) : Intake α where
  count := timer.count
  recorded := timer.histogram.count
  sum := timer.histogram.sum
  least? := timer.histogram.least?
  greatest? := timer.histogram.greatest?
  moments? := timer.histogram.moments?
  kept := if timer.histogram.count ≤ Reservoir.defaultSize then timer.histogram.reservoir.values else []

variable [Number α]

/-- A timer that is cleared by flushes, in a state that it can be in. Its sample counts what the histogram
counts, and without durations since the last flush there is nothing in either. -/
structure Clearing (timer : Timer α) : Prop where
  policy : timer.policy = .resetOnFlush
  sample : ∃ values, timer.histogram.reservoir.sample =
    .uniform ⟨Reservoir.defaultSize, values, timer.histogram.count⟩
  bound : timer.histogram.count ≤ timer.count
  unused : timer.count = 0 → timer.intake = .zero

theorem clearing_new (now : α) (draws : Nat → Draw α) : (new .resetOnFlush now draws).Clearing where
  policy := rfl
  sample := ⟨#[], rfl⟩
  bound := Nat.le_refl 0
  unused _ := rfl

theorem Clearing.isIdle_iff {timer : Timer α} (clearing : timer.Clearing) : timer.isIdle ↔ timer.count = 0 := by
  rw [Timer.isIdle_iff, and_iff_right clearing.policy]

theorem Clearing.flushed {timer : Timer α} (clearing : timer.Clearing) (timestamp : Nat) (now : α) :
    (timer.flushed timestamp now).Clearing ∧ (timer.flushed timestamp now).intake = .zero := by
  obtain ⟨values, sample⟩ := clearing.sample
  have cleared : (timer.flushed timestamp now).histogram =
      .ofReservoir { timer.histogram.reservoir with sample := .uniform ⟨Reservoir.defaultSize, #[], 0⟩ } := by
    simp only [Timer.flushed, clearing.policy, Histogram.clear, Reservoir.clear, sample, Sample.clear,
      UniformSample.clear, UniformSample.empty]
  have empty : (timer.flushed timestamp now).intake = .zero := by
    rw [intake, cleared]
    rfl
  refine ⟨⟨clearing.policy, ⟨#[], ?_⟩, ?_, fun _ => empty⟩, empty⟩
  · rw [cleared]
    rfl
  · rw [cleared]
    exact Nat.le_refl 0

theorem Clearing.update {timer : Timer α} (clearing : timer.Clearing) (duration now : α) :
    (timer.update duration now).Clearing := by
  have used : (timer.update duration now).count ≠ 0 := by simp
  obtain ⟨values, sample⟩ := clearing.sample
  have bound := clearing.bound
  refine ⟨by simpa using clearing.policy, ?_, ?_, fun unused => absurd unused used⟩
  · unfold Timer.update
    split
    · simp only [Histogram.update, Reservoir.push, sample, Sample.push, UniformSample.push]
      exact ⟨_, rfl⟩
    · exact ⟨values, sample⟩
  · unfold Timer.update
    split
    · exact Nat.succ_le_succ bound
    · exact Nat.le_succ_of_le bound

theorem Clearing.intake_update {timer : Timer α} (clearing : timer.Clearing) (duration now : α) :
    (timer.update duration now).intake = timer.intake.add duration := by
  obtain ⟨values, sample⟩ := clearing.sample
  unfold Timer.update Intake.add
  split
  · -- While there is room, the sample takes in every value.
    by_cases room : timer.histogram.count < Reservoir.defaultSize
    · simp [intake, Histogram.update, Reservoir.push, Reservoir.values, sample, Sample.push, Sample.values,
        UniformSample.push, room, Nat.le_of_lt room, Nat.succ_le_of_lt room]
    · have full : ¬timer.histogram.count + 1 ≤ Reservoir.defaultSize := room
      simp [intake, Histogram.update, room, full]
  · rfl

/-- Timers that have taken in the same report the same, but for the rate. -/
theorem Clearing.statistics_eq {left right : Timer α} (clearing : left.Clearing)
    (same : left.intake = right.intake) (few : left.count ≤ Reservoir.defaultSize) (percent : Nat) (now : α)
    {name : String} (other : name ≠ "rate") :
    (left.statistics percent now).filter (fun entry => entry.1 = name) =
      (right.statistics percent now).filter fun entry => entry.1 = name := by
  simp only [intake, Intake.mk.injEq] at same
  obtain ⟨count, recorded, sum, least, greatest, moments, kept⟩ := same
  have leftRoom : left.histogram.count ≤ Reservoir.defaultSize := Nat.le_trans clearing.bound few
  have rightRoom : right.histogram.count ≤ Reservoir.defaultSize := recorded ▸ leftRoom
  rw [if_pos leftRoom, if_pos rightRoom] at kept
  have percentiles : left.histogram.percentiles = right.histogram.percentiles := by
    funext asked
    rw [Histogram.percentiles, Histogram.percentiles, Histogram.sortedValues, Histogram.sortedValues, recorded, kept]
  have missed : ¬"rate" = name := Ne.symm other
  simp only [statistics, List.filter_append, List.filter_cons, percentiles, count, Histogram.greatest,
    Histogram.mean, Histogram.least, Histogram.standardDeviation, Histogram.variance, recorded, sum, least, greatest,
    moments, missed, decide_false, Bool.false_eq_true, if_false]

end Timer

end MetricAggregation
