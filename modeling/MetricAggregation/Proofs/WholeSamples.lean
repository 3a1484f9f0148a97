import MetricAggregation.Proofs.Aggregates
import MetricAggregation.Proofs.Sorting

/-!
Percentiles of samples that have room for all values. Such a sample loses no value and keeps none twice, so its
percentiles are those of the values themselves, in whatever order these were pushed.
-/

namespace MetricAggregation

namespace Histogram

theorem scoresAmong_perm {values others : List Double} (same : values.Perm others) (asked : List Double) :
    scoresAmong values asked = scoresAmong others asked := by
  -- Where the order says nothing of two doubles, they are the same to the bit, and so a sort leaves no choice.
  have sorted : values.mergeSort Number.totalLE = others.mergeSort Number.totalLE :=
    mergeSort_eq_of_apart Double.orderKey same fun _ _ _ _ equal => Double.orderKey_injective equal
  rw [scoresAmong, scoresAmong, same.isEmpty_eq, sorted]

/-- With room for all values, samples of both kinds give the same scores, those of all values. -/
theorem percentiles_whole (policy : ReservoirPolicy) {capacity : Nat} (alpha start : Double)
    (draws : Nat → Draw Double) {steps : List (SampleStep Double Unit)} (room : (pushedIn steps).length ≤ capacity)
    (asked : List Double) :
    (steps.foldl step (ofReservoir (.ofSample (.chosen policy capacity alpha start) draws))).percentiles asked =
      scoresAmong (pushedIn steps) asked := by
  have held := (keeps_run policy capacity alpha start draws steps).perm room
  rw [← scoresAmong_perm held]
  exact percentiles_eq_scoresAmong rfl ((count_run _ steps).trans held.length_eq.symm) asked

/-- As long as no more values were pushed since the last clear than the sample has room for, percentiles depend on the
values alone, each as often as it was pushed: on neither their order nor their times, nor on the kind of the sample, its
decay factor or its draws. They are then the same to the bit, also with zeros of both signs and undefined values. -/
theorem percentiles_eq_of_perm (policy otherPolicy : ReservoirPolicy) (capacity otherCapacity : Nat)
    (alpha start otherAlpha otherStart : Double) (draws otherDraws : Nat → Draw Double)
    (steps others : List (SampleStep Double Unit)) (room : (pushedIn steps).length ≤ capacity)
    (otherRoom : (pushedIn others).length ≤ otherCapacity) (same : (pushedIn steps).Perm (pushedIn others))
    (asked : List Double) :
    let histogram := steps.foldl step (ofReservoir (.ofSample (.chosen policy capacity alpha start) draws))
    let other :=
      others.foldl step (ofReservoir (.ofSample (.chosen otherPolicy otherCapacity otherAlpha otherStart) otherDraws))
    histogram.percentiles asked = other.percentiles asked ∧
      histogram.percentiles asked = scoresAmong (pushedIn steps) asked := by
  intro histogram other
  have scores := percentiles_whole policy alpha start draws room asked
  have otherScores := percentiles_whole otherPolicy otherAlpha otherStart otherDraws otherRoom asked
  exact ⟨scores.trans ((scoresAmong_perm same asked).trans otherScores.symm), scores⟩

theorem percentiles_eq_of_perm_signedZeros :
    let undefined : Double := ⟨0x7FF8000000000000⟩
    let draws : Nat → Draw Double := fun index => ⟨fun _ => index, 0.5⟩
    let steps : List (SampleStep Double Unit) :=
      [.push 7.0 0 (), .clear 0, .push 0.0 0 (), .push (-0.0) 0 (), .push undefined 0 (), .push 1.0 0 ()]
    let others : List (SampleStep Double Unit) :=
      [.push 1.0 0 (), .push undefined 4000.0 (), .push (-0.0) 9000.0 (), .push 0.0 9000.0 ()]
    (pushedIn steps).length ≤ 4 ∧ (pushedIn others).length ≤ 5 ∧ (pushedIn steps).Perm (pushedIn others) ∧
      (steps.foldl step (ofReservoir (.ofSample (.chosen .resetOnFlush 4 0.015 0) draws))).percentiles [0.25, 0.9] =
        (others.foldl step (ofReservoir (.ofSample (.chosen .continuous 5 0.015 0) draws))).percentiles [0.25, 0.9] := by
  intro undefined draws steps others
  have room : (pushedIn steps).length ≤ 4 := by decide
  have otherRoom : (pushedIn others).length ≤ 5 := by decide
  have same : (pushedIn steps).Perm (pushedIn others) := (List.reverse_perm (pushedIn steps)).symm
  exact ⟨room, otherRoom, same,
    (percentiles_eq_of_perm .resetOnFlush .continuous 4 5 0.015 0 0.015 0 draws draws steps others room otherRoom same
      [0.25, 0.9]).1⟩

end Histogram

end MetricAggregation
