import Mathlib.Data.List.Basic
import Mathlib.Data.List.Induction
import MetricAggregation.Proofs.Sample

/-!
The statistics of a histogram that cover every value recorded since it was cleared. They follow from these values in
their order, and neither from what its reservoir kept of them nor from when they were recorded.
-/

namespace MetricAggregation

/-- All that a histogram holds besides its reservoir. -/
structure Totals (α : Type) where
  count : Nat
  sum : α
  least? : Option α
  greatest? : Option α
  moments? : Option (Moments α)

variable {α : Type}

def Histogram.totals (histogram : Histogram α) : Totals α :=
  ⟨histogram.count, histogram.sum, histogram.least?, histogram.greatest?, histogram.moments?⟩

variable [Number α]

namespace Totals

def zero : Totals α := ⟨0, 0, none, none, none⟩

def add (totals : Totals α) (value : α) : Totals α where
  count := totals.count + 1
  sum := totals.sum + value
  least? := some (Histogram.lesser totals.least? value)
  greatest? := some (Histogram.greater totals.greatest? value)
  moments? := some (Moments.add totals.moments? value (totals.count + 1))

/-- The totals of values recorded one after another. -/
def of (values : List α) : Totals α := values.foldl add zero

theorem of_concat (values : List α) (value : α) : of (values ++ [value]) = (of values).add value :=
  List.foldl_concat add zero value values

theorem count_of (values : List α) : (of values).count = values.length := by
  induction values using List.reverseRecOn with
  | nil => rfl
  | append_singleton values value ih =>
      rw [of_concat, List.length_append, List.length_singleton, ← ih]
      rfl

end Totals

namespace Sample

theorem isUniform_push (sample : Sample α) (value now : α) (draw : Draw α) :
    (sample.push value now draw).isUniform = sample.isUniform := by
  cases sample <;> rfl

omit [Number α] in
theorem isUniform_clear (sample : Sample α) (now : α) : (sample.clear now).isUniform = sample.isUniform := by
  cases sample <;> rfl

end Sample

namespace Histogram

theorem totals_update (histogram : Histogram α) (value now : α) :
    (histogram.update value now).totals = histogram.totals.add value := rfl

/-- Two histograms tell the same of all values recorded in them. -/
structure SameAggregates (left right : Histogram α) : Prop where
  count : left.count = right.count
  sum : left.sum = right.sum
  least : left.least = right.least
  greatest : left.greatest = right.greatest
  mean : left.mean = right.mean
  variance : left.variance = right.variance

theorem sameAggregates_of_totals {left right : Histogram α} (same : left.totals = right.totals) :
    left.SameAggregates right := by
  simp only [totals, Totals.mk.injEq] at same
  obtain ⟨count, sum, least, greatest, moments⟩ := same
  exact {
    count := count
    sum := sum
    least := by rw [Histogram.least, least, Histogram.least]
    greatest := by rw [Histogram.greatest, greatest, Histogram.greatest]
    mean := by rw [mean, count, sum, mean]
    variance := by rw [variance, count, moments, variance] }

/-- A value is recorded, or all are removed. -/
def step (histogram : Histogram α) : SampleStep α Unit → Histogram α
  | .push value now () => histogram.update value now
  | .clear now => histogram.clear now

/-- What has been recorded since the last clear decides the totals. -/
theorem totals_run (reservoir : Reservoir α) (steps : List (SampleStep α Unit)) :
    (steps.foldl step (ofReservoir reservoir)).totals = .of (pushedIn steps) := by
  induction steps using List.reverseRecOn with
  | nil => rfl
  | append_singleton steps use ih =>
      rw [List.foldl_concat, pushedIn, List.foldl_concat, ← pushedIn]
      cases use with
      | push value now drawn => rw [step, totals_update, ih, SampleStep.pushedAfter, Totals.of_concat]
      | clear now => rfl

theorem count_run (reservoir : Reservoir α) (steps : List (SampleStep α Unit)) :
    (steps.foldl step (ofReservoir reservoir)).count = (pushedIn steps).length :=
  (congrArg Totals.count (totals_run reservoir steps)).trans (Totals.count_of _)

theorem keeps_run (policy : ReservoirPolicy) (capacity : Nat) (alpha start : α) (draws : Nat → Draw α)
    (steps : List (SampleStep α Unit)) :
    (steps.foldl step (ofReservoir (.ofSample (.chosen policy capacity alpha start) draws))).reservoir.sample.Keeps
      capacity (pushedIn steps) := by
  refine Sample.keeps_foldl (fun histogram : Histogram α => histogram.reservoir.sample) ?_ steps
    (Sample.keeps_chosen policy capacity alpha start)
  intro histogram pushed use keeps
  cases use with
  | push value now drawn => exact keeps.push value now _
  | clear now => exact keeps.clear now

theorem isUniform_run (steps : List (SampleStep α Unit)) : ∀ histogram : Histogram α,
    (steps.foldl step histogram).reservoir.sample.isUniform = histogram.reservoir.sample.isUniform := by
  induction steps with
  | nil => exact fun _ => rfl
  | cons use rest ih =>
      intro histogram
      rw [List.foldl_cons, ih]
      cases use with
      | push value now drawn => exact Sample.isUniform_push _ value now _
      | clear now => exact Sample.isUniform_clear _ now

theorem percentiles_eq_map_score {histogram : Histogram α} (recorded : histogram.count ≠ 0)
    (filled : histogram.reservoir.values ≠ []) (percentiles : List α) :
    histogram.percentiles percentiles = percentiles.map (score histogram.sortedValues) := by
  have sorted : ¬histogram.sortedValues.isEmpty := by
    rw [Array.isEmpty_iff_size_eq_zero, sortedValues, List.size_toArray, List.length_mergeSort]
    exact mt List.length_eq_zero_iff.mp filled
  unfold Histogram.percentiles
  dsimp only
  rw [if_neg]
  simp only [Bool.or_eq_true, decide_eq_true_eq, not_or]
  exact ⟨recorded, sorted⟩

/-- The scores of percentiles among values of which none is left out; zero without any values. -/
def scoresAmong (values percentiles : List α) : List α :=
  if values.isEmpty then percentiles.map fun _ => 0
  else percentiles.map (score (values.mergeSort Number.totalLE).toArray)

theorem percentiles_eq_scoresAmong {histogram : Histogram α} {values : List α}
    (kept : histogram.reservoir.values = values) (counted : histogram.count = values.length) (percentiles : List α) :
    histogram.percentiles percentiles = scoresAmong values percentiles := by
  subst kept
  unfold scoresAmong
  split
  · rename_i nothing
    rw [List.isEmpty_iff_length_eq_zero, ← counted] at nothing
    unfold Histogram.percentiles
    rw [nothing]
    rfl
  · rename_i someValues
    rw [List.isEmpty_iff] at someValues
    exact percentiles_eq_map_score (counted ▸ mt List.length_eq_zero_iff.mp someValues) someValues percentiles

/-- As long as there is room for all values, a uniform sample keeps them all. -/
theorem percentiles_run {capacity : Nat} (alpha start : α) (draws : Nat → Draw α) {steps : List (SampleStep α Unit)}
    (room : (pushedIn steps).length ≤ capacity) (percentiles : List α) :
    (steps.foldl step (ofReservoir (.ofSample (.chosen .resetOnFlush capacity alpha start) draws))).percentiles
      percentiles = scoresAmong (pushedIn steps) percentiles :=
  percentiles_eq_scoresAmong ((keeps_run .resetOnFlush capacity alpha start draws steps).whole
    (isUniform_run steps _) room) (count_run _ steps) percentiles

end Histogram

end MetricAggregation
