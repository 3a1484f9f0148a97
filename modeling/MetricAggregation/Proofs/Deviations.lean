import Mathlib.Tactic.LinearCombination
import MetricAggregation.Proofs.Aggregates
import MetricAggregation.Proofs.ExactNumber

/-!
Means and squared deviations. Over exact numbers, the moments that a histogram keeps up value by value are those of the
values recorded since it was cleared, taken all at once, and so the order in which they came plays no part.
-/

namespace MetricAggregation

variable {α : Type} [ExactNumber α]

def arithmeticMean (values : List α) : α := values.sum / (values.length : α)

/-- The sum of the squared distances of values from a center. -/
def squaredDistances (center : α) (values : List α) : α := (values.map fun value => (value - center) ^ 2).sum

/-- The sum of the squared deviations of values from their mean. -/
def squaredDeviations (values : List α) : α := squaredDistances (arithmeticMean values) values

theorem sum_eq_length_mul_mean (values : List α) : values.sum = (values.length : α) * arithmeticMean values := by
  cases values with
  | nil => simp
  | cons first rest =>
      have counted : (((first :: rest).length : Nat) : α) ≠ 0 := Nat.cast_ne_zero.mpr (Nat.succ_ne_zero _)
      rw [arithmeticMean, mul_div_cancel₀ _ counted]

theorem squaredDistances_concat (center : α) (values : List α) (value : α) :
    squaredDistances center (values ++ [value]) = squaredDistances center values + (value - center) ^ 2 := by
  simp [squaredDistances]

theorem squaredDistances_expand (center : α) (values : List α) :
    squaredDistances center values =
      (values.map (· ^ 2)).sum - 2 * center * values.sum + (values.length : α) * center ^ 2 := by
  induction values with
  | nil => simp [squaredDistances]
  | cons first rest ih =>
      rw [squaredDistances] at ih ⊢
      simp only [List.map_cons, List.sum_cons, List.length_cons, Nat.cast_succ, ih]
      ring

/-- Any center other than the mean adds its own distance from the mean, once for each value. -/
theorem squaredDistances_eq (center : α) (values : List α) :
    squaredDistances center values =
      squaredDeviations values + (values.length : α) * (arithmeticMean values - center) ^ 2 := by
  rw [squaredDeviations, squaredDistances_expand, squaredDistances_expand, sum_eq_length_mul_mean values]
  ring

theorem squaredDeviations_nonneg (values : List α) : 0 ≤ squaredDeviations values := by
  apply List.sum_nonneg
  intro squared member
  obtain ⟨value, _, rfl⟩ := List.mem_map.mp member
  exact sq_nonneg _

section Concat

variable (values : List α) (value : α)

/-- A value is as many times as far from the mean of the values before it as that mean moves, as there are values with
it. -/
theorem sub_arithmeticMean :
    value - arithmeticMean values =
      ((values.length + 1 : Nat) : α) * (arithmeticMean (values ++ [value]) - arithmeticMean values) := by
  have before := sum_eq_length_mul_mean values
  have after := sum_eq_length_mul_mean (values ++ [value])
  rw [List.sum_append, List.sum_singleton, List.length_append, List.length_singleton] at after
  push_cast at after ⊢
  -- Both means are sums divided by a count; written with the sums, the value is the difference of the two.
  linear_combination after - before

theorem arithmeticMean_concat :
    arithmeticMean (values ++ [value]) =
      arithmeticMean values + (value - arithmeticMean values) / ((values.length + 1 : Nat) : α) := by
  have counted : ((values.length + 1 : Nat) : α) ≠ 0 := Nat.cast_ne_zero.mpr (Nat.succ_ne_zero _)
  rw [sub_arithmeticMean values value, mul_div_cancel_left₀ _ counted, add_sub_cancel]

/-- The squared deviations grow by the distance from the old mean times the distance from the new one. -/
theorem squaredDeviations_concat :
    squaredDeviations (values ++ [value]) = squaredDeviations values +
      (value - arithmeticMean values) * (value - arithmeticMean (values ++ [value])) := by
  have moved := sub_arithmeticMean values value
  rw [squaredDeviations, squaredDistances_concat, squaredDistances_eq]
  push_cast at moved
  -- The old values are measured from the new mean first; what that adds is made up for by the move of the mean.
  linear_combination (arithmeticMean values - arithmeticMean (values ++ [value])) * moved

end Concat

namespace Moments

def of? (values : List α) : Option (Moments α) :=
  if values.isEmpty then none else some ⟨arithmeticMean values, squaredDeviations values⟩

theorem of?_concat (values : List α) (value : α) :
    of? (values ++ [value]) = some (add (of? values) value (values.length + 1)) := by
  rw [of?, if_neg (by simp)]
  cases values with
  | nil => simp [of?, add, arithmeticMean, squaredDeviations, squaredDistances]
  | cons first rest =>
      rw [arithmeticMean_concat, squaredDeviations_concat, arithmeticMean_concat]
      rfl

theorem of?_perm {values others : List α} (same : values.Perm others) : of? values = of? others := by
  have mean : arithmeticMean values = arithmeticMean others := by
    rw [arithmeticMean, same.sum_eq, same.length_eq, arithmeticMean]
  have deviations : squaredDeviations values = squaredDeviations others := by
    rw [squaredDeviations, squaredDistances, (same.map _).sum_eq, mean, squaredDeviations, squaredDistances]
  rw [of?, of?, mean, deviations, same.isEmpty_eq]

end Moments

theorem Totals.moments_of (values : List α) : (Totals.of values).moments? = Moments.of? values := by
  induction values using List.reverseRecOn with
  | nil => rfl
  | append_singleton values value ih =>
      rw [Totals.of_concat, Moments.of?_concat, ← ih, ← Totals.count_of values]
      rfl

namespace Histogram

theorem moments_run (reservoir : Reservoir α) (steps : List (SampleStep α Unit)) :
    (steps.foldl step (ofReservoir reservoir)).moments? = Moments.of? (pushedIn steps) := by
  rw [← Totals.moments_of, ← totals_run reservoir steps]
  rfl

theorem variance_run (reservoir : Reservoir α) (steps : List (SampleStep α Unit)) :
    (steps.foldl step (ofReservoir reservoir)).variance =
      if 1 < (pushedIn steps).length then
        squaredDeviations (pushedIn steps) / (((pushedIn steps).length - 1 : Nat) : α)
      else 0 := by
  rw [variance, moments_run, count_run, Moments.of?]
  cases pushedIn steps with
  | nil => rfl
  | cons first rest => rfl

/-- The moments kept up value by value are the mean of the values recorded since the last clear and the sum of their
squared deviations from it. So the variance is that sum over one less than their number, with fewer than two values zero;
it is never negative, and what order the values came in, at what times and with what sample does not matter. -/
theorem moments_exact (reservoir : Reservoir α) (steps : List (SampleStep α Unit)) :
    let histogram := steps.foldl step (ofReservoir reservoir)
    let recorded := pushedIn steps
    histogram.moments? =
        (if recorded.isEmpty then none else some ⟨arithmeticMean recorded, squaredDeviations recorded⟩) ∧
      histogram.variance =
        (if 1 < recorded.length then squaredDeviations recorded / ((recorded.length - 1 : Nat) : α) else 0) ∧
      0 ≤ histogram.variance ∧
      ∀ (other : Reservoir α) (others : List (SampleStep α Unit)), (pushedIn others).Perm recorded →
        (others.foldl step (ofReservoir other)).moments? = histogram.moments? ∧
          (others.foldl step (ofReservoir other)).variance = histogram.variance := by
  intro histogram recorded
  have moments : histogram.moments? = Moments.of? recorded := moments_run reservoir steps
  have variance := variance_run reservoir steps
  refine ⟨moments, variance, ?_, ?_⟩
  · rw [variance]
    split
    · exact div_nonneg (squaredDeviations_nonneg recorded) (Nat.cast_nonneg _)
    · exact le_rfl
  · intro other others same
    have alike : (others.foldl step (ofReservoir other)).moments? = histogram.moments? := by
      rw [moments_run, Moments.of?_perm same, moments]
    have counted : (others.foldl step (ofReservoir other)).count = histogram.count := by
      rw [count_run, same.length_eq, count_run]
    exact ⟨alike, by rw [Histogram.variance, alike, counted, Histogram.variance]⟩

end Histogram

end MetricAggregation
