import Mathlib.Algebra.BigOperators.Fin
import Mathlib.Data.Fintype.BigOperators
import MetricAggregation.Proofs.Sample

/-!
How often a uniform sample keeps a value. Over all outcomes of the draws, each position of the stream is held in
the end by the same share of them, which is the share of the stream that the sample has room for.
-/

namespace MetricAggregation

/-- The outcomes of the draws for the values that come behind the first `capacity` ones: the value that is pushed as
the `n`-th draws out of `n` slots. -/
abbrev Draws (capacity extra : Nat) : Type := (late : Fin extra) → Fin (capacity + late + 1)

namespace Draws

variable {capacity extra : Nat}

/-- What is drawn out of a number of slots. There are no draws out of as few slots as a sample has. -/
def slot (draws : Draws capacity extra) (slots : Nat) : Nat :=
  if late : capacity < slots ∧ slots ≤ capacity + extra then draws ⟨slots - capacity - 1, by omega⟩ else 0

def snoc (draws : Draws capacity extra) (last : Fin (capacity + extra + 1)) : Draws capacity (extra + 1) :=
  Fin.snocEquiv (fun late : Fin (extra + 1) => Fin (capacity + late + 1)) (last, draws)

theorem slot_snoc_last (draws : Draws capacity extra) (last : Fin (capacity + extra + 1)) :
    (draws.snoc last).slot (capacity + extra + 1) = last := by
  have drawn : ∀ index : Fin (extra + 1), index = Fin.last extra → ((draws.snoc last index : Fin _) : Nat) = last := by
    rintro _ rfl
    exact congrArg Fin.val (Fin.snoc_last (α := fun late : Fin (extra + 1) => Fin (capacity + late + 1)) last draws)
  rw [slot, dif_pos (by omega)]
  refine drawn _ (Fin.ext ?_)
  change capacity + extra + 1 - capacity - 1 = extra
  omega

theorem slot_snoc (draws : Draws capacity extra) (last : Fin (capacity + extra + 1)) {slots : Nat}
    (early : slots ≤ capacity + extra) : (draws.snoc last).slot slots = draws.slot slots := by
  have drawn : ∀ (index : Fin (extra + 1)) (old : Fin extra), index = old.castSucc →
      ((draws.snoc last index : Fin _) : Nat) = draws old := by
    rintro _ old rfl
    exact congrArg Fin.val
      (Fin.snoc_castSucc (α := fun late : Fin (extra + 1) => Fin (capacity + late + 1)) last draws old)
  unfold slot
  by_cases late : capacity < slots
  · rw [dif_pos ⟨late, by omega⟩, dif_pos ⟨late, early⟩]
    exact drawn _ ⟨slots - capacity - 1, by omega⟩ rfl
  · rw [dif_neg (by omega), dif_neg (by omega)]

theorem card_succ : Fintype.card (Draws capacity (extra + 1)) =
    Fintype.card (Draws capacity extra) * (capacity + extra + 1) := by
  rw [Fintype.card_pi, Fintype.card_pi, Fin.prod_univ_castSucc]
  simp only [Fintype.card_fin, Fin.val_castSucc, Fin.val_last]

theorem card_filter_succ (holds : Draws capacity (extra + 1) → Prop) [DecidablePred holds] :
    (Finset.univ.filter holds).card =
      ∑ draws : Draws capacity extra, (Finset.univ.filter fun last => holds (draws.snoc last)).card := by
  simp only [Finset.card_filter]
  rw [← (Fin.snocEquiv fun late : Fin (extra + 1) => Fin (capacity + late + 1)).sum_comp,
    Fintype.sum_prod_type_right]
  rfl

end Draws

namespace UniformSample

section Streams

variable {α β : Type}

/-- A sample after the values at the first positions of a stream, each of which asks for a slot out of as many as
there are values up to it. -/
def fed (capacity : Nat) (value : Nat → α) (slot : Nat → Nat) (number : Nat) : UniformSample α :=
  (List.range number).foldl (fun sample position => sample.push (value position) (slot (position + 1)))
    (empty capacity)

variable (capacity : Nat) (value : Nat → α) (slot : Nat → Nat)

theorem fed_succ (number : Nat) : fed capacity value slot (number + 1) =
    (fed capacity value slot number).push (value number) (slot (number + 1)) := by
  rw [fed, List.range_succ, List.foldl_concat, fed]

theorem keeps_fed (number : Nat) :
    (Sample.uniform (fed capacity value slot number)).Keeps capacity ((List.range number).map value) := by
  induction number with
  | zero => exact ⟨rfl, rfl, (Nat.min_zero capacity).symm, .refl _, fun _ _ => rfl⟩
  | succ number ih =>
      rw [fed_succ, List.range_succ, List.map_append]
      exact ih.push_uniform (value number) _

theorem count_fed (number : Nat) : (fed capacity value slot number).count = number :=
  (keeps_fed capacity value slot number).count.trans (by simp)

theorem capacity_fed (number : Nat) : (fed capacity value slot number).capacity = capacity :=
  (keeps_fed capacity value slot number).limit

/-- What is held of any stream are the values at the positions that are held of the positions themselves. -/
theorem values_fed (number : Nat) :
    (fed capacity value slot number).values = (fed capacity id slot number).values.map value := by
  induction number with
  | zero => exact Array.map_empty.symm
  | succ number ih =>
      simp only [fed_succ, push, count_fed, capacity_fed, ih, id]
      split
      · rw [Array.map_push]
      · rw [Array.map_setIfInBounds]

theorem fed_congr {other : Nat → Nat} {number : Nat} (same : ∀ slots ≤ number, slot slots = other slots) :
    fed capacity value slot number = fed capacity value other number := by
  induction number with
  | zero => rfl
  | succ number ih =>
      rw [fed_succ, fed_succ, ih fun slots bound => same slots (by omega), same (number + 1) le_rfl]

end Streams

end UniformSample

/-- An entry that is replaced in a list without repetitions leaves the list, and all others stay. -/
theorem mem_set_iff_of_nodup {entries : List Nat} (nodup : entries.Nodup) {slot entry other : Nat}
    (differs : entry ≠ other) : entry ∈ entries.set slot other ↔ entry ∈ entries ∧ entries[slot]? ≠ some entry := by
  simp only [List.mem_iff_getElem?, List.getElem?_set]
  constructor
  · rintro ⟨position, found⟩
    by_cases same : slot = position
    · rw [if_pos same] at found
      split at found
      · exact absurd (Option.some.inj found).symm differs
      · cases found
    · rw [if_neg same] at found
      refine ⟨⟨position, found⟩, fun replaced => same ?_⟩
      have inside := (List.getElem?_eq_some_iff.mp replaced).1
      exact (List.getElem?_inj inside nodup).mp (replaced.trans found.symm)
  · rintro ⟨⟨position, found⟩, kept⟩
    have apart : slot ≠ position := by
      rintro rfl
      exact kept found
    exact ⟨position, by rw [if_neg apart]; exact found⟩

namespace Draws

variable {capacity extra : Nat}

/-- The positions of a stream of `capacity + extra` values that a sample holds in the end. -/
def held (draws : Draws capacity extra) : List Nat :=
  (UniformSample.fed capacity id draws.slot (capacity + extra)).values.toList

theorem subperm_held (draws : Draws capacity extra) : draws.held.Subperm (List.range (capacity + extra)) := by
  have retained := (UniformSample.keeps_fed capacity id draws.slot (capacity + extra)).retained
  rwa [List.map_id] at retained

theorem nodup_held (draws : Draws capacity extra) : draws.held.Nodup := by
  obtain ⟨kept, same, part⟩ := draws.subperm_held
  exact same.nodup_iff.mp (List.nodup_range.sublist part)

theorem lt_of_mem_held {draws : Draws capacity extra} {position : Nat} (inside : position ∈ draws.held) :
    position < capacity + extra :=
  List.mem_range.mp (draws.subperm_held.subset inside)

theorem length_held (draws : Draws capacity extra) : draws.held.length = capacity := by
  have size := (UniformSample.keeps_fed capacity id draws.slot (capacity + extra)).size
  simpa [Sample.size, held] using size

theorem held_zero (draws : Draws capacity 0) : draws.held = List.range capacity := by
  have whole := (UniformSample.keeps_fed capacity id draws.slot capacity).whole rfl (by simp)
  rwa [List.map_id] at whole

theorem held_snoc (draws : Draws capacity extra) (last : Fin (capacity + extra + 1)) :
    (draws.snoc last).held = draws.held.set last (capacity + extra) := by
  have earlier : UniformSample.fed capacity id (draws.snoc last).slot (capacity + extra) =
      UniformSample.fed capacity id draws.slot (capacity + extra) :=
    UniformSample.fed_congr capacity id _ fun slots bound => slot_snoc draws last bound
  have full : ¬capacity + extra < capacity := by omega
  rw [held, ← Nat.add_assoc, UniformSample.fed_succ, earlier, slot_snoc_last]
  simp only [UniformSample.push, UniformSample.count_fed, UniformSample.capacity_fed, if_neg full, id,
    Array.toList_setIfInBounds, held]

theorem card_filter_last_held (draws : Draws capacity extra) :
    (Finset.univ.filter fun last => capacity + extra ∈ (draws.snoc last).held).card = capacity := by
  have drawn : ∀ last : Fin (capacity + extra + 1),
      capacity + extra ∈ (draws.snoc last).held ↔ (last : Nat) < capacity := by
    intro last
    rw [held_snoc]
    constructor
    · intro inside
      by_contra outside
      rw [List.set_eq_of_length_le (by rw [length_held]; omega)] at inside
      exact lt_irrefl _ (lt_of_mem_held inside)
    · intro bound
      exact List.mem_set (by rw [length_held]; exact bound) _
  simp only [drawn, Fin.card_filter_val_lt]
  omega

theorem card_filter_earlier_held (draws : Draws capacity extra) {position : Nat}
    (earlier : position < capacity + extra) :
    (Finset.univ.filter fun last => position ∈ (draws.snoc last).held).card =
      if position ∈ draws.held then capacity + extra else 0 := by
  simp only [held_snoc, mem_set_iff_of_nodup draws.nodup_held earlier.ne]
  split
  · rename_i inside
    obtain ⟨slot, bound, found⟩ := List.mem_iff_getElem.mp inside
    -- Only one outcome takes the place of the position.
    have drawn : ∀ last : Fin (capacity + extra + 1),
        position ∈ draws.held ∧ draws.held[(last : Nat)]? ≠ some position ↔
          last ≠ ⟨slot, by rw [length_held] at bound; omega⟩ := by
      intro last
      rw [and_iff_right inside, ne_eq, ne_eq, ← found, ← List.getElem?_eq_getElem bound, Fin.ext_iff]
      refine not_congr ⟨fun same => ?_, fun same => by rw [same]⟩
      exact ((List.getElem?_inj bound draws.nodup_held).mp same.symm).symm
    simp only [drawn, Finset.filter_ne', Finset.card_erase_of_mem (Finset.mem_univ _), Finset.card_univ,
      Fintype.card_fin]
    omega
  · rename_i outside
    simp [outside]

/-- Each position of a stream is held under the same number of outcomes. Another value in the stream takes the place
of any earlier one under one outcome of its own draw. -/
theorem card_filter_held {position : Nat} (inside : position < capacity + extra) :
    (Finset.univ.filter fun draws : Draws capacity extra => position ∈ draws.held).card * (capacity + extra) =
      capacity * Fintype.card (Draws capacity extra) := by
  induction extra with
  | zero =>
      have whole : ∀ draws : Draws capacity 0, position ∈ draws.held := by
        intro draws
        rw [held_zero]
        exact List.mem_range.mpr inside
      rw [Finset.filter_true_of_mem fun draws _ => whole draws, Finset.card_univ]
      exact Nat.mul_comm _ _
  | succ extra ih =>
      rw [card_filter_succ, card_succ]
      have places : position < capacity + extra ∨ position = capacity + extra := by omega
      rcases places with earlier | rfl
      · have survivors : ∑ draws : Draws capacity extra,
            (Finset.univ.filter fun last => position ∈ (draws.snoc last).held).card =
              (Finset.univ.filter fun draws : Draws capacity extra => position ∈ draws.held).card *
                (capacity + extra) := by
          simp only [card_filter_earlier_held _ earlier]
          rw [← Finset.sum_filter, Finset.sum_const, smul_eq_mul]
        rw [survivors, ih earlier, Nat.mul_assoc, Nat.add_assoc]
      · simp only [card_filter_last_held, Finset.sum_const, Finset.card_univ, smul_eq_mul]
        rw [Nat.mul_comm _ capacity, Nat.mul_assoc, Nat.add_assoc]

end Draws

namespace UniformSample

variable {α : Type} [Number α]

/-- Pushes of the values at the first positions of a stream. -/
def pushes (value time unit : Nat → α) (slot : Nat → Nat) (number : Nat) : List (SampleStep α (Draw α)) :=
  (List.range number).map fun position => .push (value position) (time position) ⟨slot, unit position⟩

theorem foldl_pushes (capacity : Nat) (value time unit : Nat → α) (slot : Nat → Nat) (number : Nat) :
    (pushes value time unit slot number).foldl Sample.step (.uniform (empty capacity)) =
      .uniform (fed capacity value slot number) := by
  induction number with
  | zero => rfl
  | succ number ih =>
      rw [pushes, List.range_succ, List.map_append, List.foldl_append, ← pushes, ih, fed_succ]
      simp only [List.map_singleton, List.foldl_cons, List.foldl_nil, Sample.step, Sample.push, count_fed]

/-- A uniform sample is uniform: each position of a stream that is as long as the sample or longer is held in the end
under the same share of the outcomes of its draws, `capacity` of as many as there are values. The outcomes decide
which positions are held, whatever the values are. -/
theorem card_held_mul (sample : UniformSample α) (value time unit : Nat → α) (now : α) (extra : Nat)
    (position : Fin (sample.capacity + extra)) :
    let number := sample.capacity + extra
    let outcomes : Finset (Draws sample.capacity extra) := Finset.univ
    (∀ draws : Draws sample.capacity extra, draws.held.Nodup ∧ draws.held.map value =
      ((.clear now :: pushes value time unit draws.slot number).foldl Sample.step (.uniform sample)).values) ∧
    (outcomes.filter fun draws => position.val ∈ draws.held).card * number = sample.capacity * outcomes.card := by
  intro number outcomes
  refine ⟨fun draws => ⟨draws.nodup_held, ?_⟩, Draws.card_filter_held position.isLt⟩
  have run := foldl_pushes sample.capacity value time unit draws.slot number
  rw [List.foldl_cons]
  change _ = ((pushes value time unit draws.slot number).foldl Sample.step
    (.uniform (empty sample.capacity))).values
  rw [run, Sample.values, values_fed, Array.toList_map]
  rfl

end UniformSample

end MetricAggregation
