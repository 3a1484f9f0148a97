import MetricAggregation.Proofs.HeapOrder
import MetricAggregation.Proofs.Sample

/-!
The landmark of a decaying sample. Moving it multiplies all priorities by one factor, so a sample keeps what it
would keep if the landmark stayed where it was: the values whose priorities are highest.
-/

namespace MetricAggregation

/-- A value pushed at a time, with what was drawn for it. -/
structure Arrival (α : Type) where
  value : α
  time : α
  unit : α

section Arrivals

variable {α : Type}

def SampleStep.arrivedAfter (arrivals : List (Arrival α)) : SampleStep α α → List (Arrival α)
  | push value time unit => arrivals ++ [⟨value, time, unit⟩]
  | clear _ => []

/-- What was pushed since the last clear. -/
def arrivalsIn (steps : List (SampleStep α α)) : List (Arrival α) := steps.foldl SampleStep.arrivedAfter []

variable [Number α]

/-- The priority of an arrival if the landmark were zero at all times. -/
def Arrival.rank (alpha : α) (arrival : Arrival α) : α := Number.exp (alpha * arrival.time) / arrival.unit

/-- The entry for an arrival under a landmark. -/
def Arrival.entry (alpha landmark : α) (arrival : Arrival α) : Weighted α :=
  ⟨arrival.rank alpha * Number.exp (-alpha * landmark), arrival.value⟩

end Arrivals

namespace DecayingSample

section Unmoved

variable {α : Type} [Number α]

/-- A push that leaves the landmark where it is, however far away the time is. -/
def pushUnmoved (sample : DecayingSample α) (value time unit : α) : DecayingSample α :=
  { sample with
    count := sample.count + 1
    heap := sample.takeIn ⟨sample.priority time unit, value⟩ }

def stepUnmoved (sample : DecayingSample α) : SampleStep α α → DecayingSample α
  | .push value time unit => sample.pushUnmoved value time unit
  | .clear time => sample.clear time

def movedTo (sample : DecayingSample α) (landmark : α) : DecayingSample α :=
  { sample with
    landmark := landmark
    heap := sample.heap.relabel
      (.scaled (Number.exp (-sample.alpha * (landmark - sample.landmark)))) }

theorem push_eq_pushUnmoved (sample : DecayingSample α) (value time unit : α) :
    sample.push value time unit = (sample.rescaleIfDue time).pushUnmoved value time unit := rfl

end Unmoved

end DecayingSample

variable {α : Type} [ExactNumber α]

namespace DecayingSample

open PriorityHeap

theorem scaled_scaled (entry : Weighted α) (first second : α) :
    (entry.scaled first).scaled second = entry.scaled (first * second) := by
  simp only [Weighted.scaled, mul_assoc]

theorem movedTo_movedTo (sample : DecayingSample α) (first second : α) :
    (sample.movedTo first).movedTo second = sample.movedTo second := by
  have factors : Number.exp (-sample.alpha * (first - sample.landmark)) *
      Number.exp (-sample.alpha * (second - first)) =
        Number.exp (-sample.alpha * (second - sample.landmark)) := by
    rw [← ExactNumber.exp_add]
    ring_nf
  simp only [movedTo, relabel, Array.map_map, Function.comp_def, scaled_scaled, factors]

theorem movedTo_landmark (sample : DecayingSample α) : sample.movedTo sample.landmark = sample := by
  have unchanged : Weighted.scaled (1 : α) = id := by
    funext entry
    simp only [Weighted.scaled, mul_one, id]
  simp only [movedTo, relabel, sub_self, mul_zero, ExactNumber.exp_zero, unchanged, Array.map_id]

theorem rescale_eq_movedTo {sample : DecayingSample α} (ordered : Ordered sample.heap.entries) (landmark : α) :
    sample.rescale landmark = sample.movedTo landmark := by
  rw [rescale, ordered.scale (ExactNumber.exp_pos _), movedTo]

theorem priority_movedTo (sample : DecayingSample α) (landmark time unit : α) :
    (sample.movedTo landmark).priority time unit = sample.priority time unit *
      Number.exp (-sample.alpha * (landmark - sample.landmark)) := by
  change Number.exp (sample.alpha * (time - landmark)) / unit = _
  rw [priority, div_mul_eq_mul_div, ← ExactNumber.exp_add]
  ring_nf

theorem takeIn_movedTo (sample : DecayingSample α) (landmark : α) (entry : Weighted α) :
    (sample.movedTo landmark).takeIn
        (entry.scaled (Number.exp (-sample.alpha * (landmark - sample.landmark)))) =
      (sample.takeIn entry).relabel
        (.scaled (Number.exp (-sample.alpha * (landmark - sample.landmark)))) := by
  have positive := ExactNumber.exp_pos (-sample.alpha * (landmark - sample.landmark))
  have keeps := keepsOrder_scaled positive
  unfold takeIn
  simp only [movedTo, size_relabel, least?_relabel]
  by_cases room : sample.heap.size < sample.capacity
  · rw [if_pos room, if_pos room, keeps.insert]
  · rw [if_neg room, if_neg room]
    cases sample.heap.least? with
    | none => rfl
    | some least =>
        have compared : (least.scaled (Number.exp (-sample.alpha * (landmark - sample.landmark)))).priority <
            (entry.scaled (Number.exp (-sample.alpha * (landmark - sample.landmark)))).priority ↔
              least.priority < entry.priority := mul_lt_mul_iff_left₀ positive
        simp only [Option.map_some, compared]
        split
        · rw [keeps.removeLeast, keeps.insert]
        · rfl

theorem pushUnmoved_movedTo (sample : DecayingSample α) (landmark value time unit : α) :
    (sample.movedTo landmark).pushUnmoved value time unit =
      (sample.pushUnmoved value time unit).movedTo landmark := by
  unfold pushUnmoved
  rw [priority_movedTo]
  exact congrArg (fun heap => (⟨_, _, heap, _, _⟩ : DecayingSample α))
    (sample.takeIn_movedTo landmark ⟨sample.priority time unit, value⟩)

theorem rescaleIfDue_movedTo {sample : DecayingSample α} (ordered : Ordered sample.heap.entries)
    (landmark time : α) : ∃ moved, (sample.movedTo landmark).rescaleIfDue time = sample.movedTo moved := by
  unfold rescaleIfDue
  split
  · refine ⟨time, ?_⟩
    have scaled : Ordered (sample.movedTo landmark).heap.entries := ordered.scaled (ExactNumber.exp_pos _)
    rw [rescale_eq_movedTo scaled, movedTo_movedTo]
  · exact ⟨landmark, rfl⟩

theorem step_movedTo {sample : DecayingSample α} (ordered : Ordered sample.heap.entries) (landmark : α)
    (use : SampleStep α α) :
    ∃ moved, (sample.movedTo landmark).step use = (sample.stepUnmoved use).movedTo moved := by
  cases use with
  | push value time unit =>
      obtain ⟨moved, rescaled⟩ := rescaleIfDue_movedTo ordered landmark time
      refine ⟨moved, ?_⟩
      change (sample.movedTo landmark).push value time unit = _
      rw [push_eq_pushUnmoved, rescaled, pushUnmoved_movedTo]
      rfl
  | clear now => exact ⟨now, (movedTo_landmark (sample.clear now)).symm⟩

theorem ordered_takeIn {sample : DecayingSample α} (ordered : Ordered sample.heap.entries) (entry : Weighted α) :
    Ordered (sample.takeIn entry).entries := by
  unfold takeIn
  split
  · exact ordered.insert entry
  · split
    · split
      · exact ordered.removeLeast.insert entry
      · exact ordered
    · exact ordered

end DecayingSample

/-- Some arrivals are divided into those that are kept and those that are left out: as many are kept as there is
room for, and none of them ranks below one that is left out. -/
structure Divides (capacity : Nat) (alpha : α) (arrivals kept left : List (Arrival α)) : Prop where
  all : (kept ++ left).Perm arrivals
  size : kept.length = min capacity arrivals.length
  highest : ∀ high ∈ kept, ∀ low ∈ left, low.rank alpha ≤ high.rank alpha

namespace Divides

variable {capacity : Nat} {alpha : α} {arrivals kept left : List (Arrival α)}

theorem nil : Divides capacity alpha ([] : List (Arrival α)) [] [] :=
  ⟨.refl _, (Nat.min_zero _).symm, nofun⟩

theorem length_add (divides : Divides capacity alpha arrivals kept left) :
    kept.length + left.length = arrivals.length := by
  rw [← List.length_append]
  exact divides.all.length_eq

theorem cons_all (divides : Divides capacity alpha arrivals kept left) (arrival : Arrival α) :
    (arrival :: (kept ++ left)).Perm (arrivals ++ [arrival]) :=
  (divides.all.cons arrival).trans (List.perm_append_singleton arrival arrivals).symm

theorem keep (divides : Divides capacity alpha arrivals kept left) (room : kept.length < capacity)
    (arrival : Arrival α) : Divides capacity alpha (arrivals ++ [arrival]) (arrival :: kept) left := by
  have size := divides.size
  have added := divides.length_add
  -- As long as there is room, nothing has been left out.
  obtain rfl : left = [] := List.length_eq_zero_iff.mp (by omega)
  refine ⟨divides.cons_all arrival, ?_, nofun⟩
  rw [List.length_cons, List.length_append, List.length_singleton]
  omega

theorem leave (divides : Divides capacity alpha arrivals kept left) (full : capacity ≤ kept.length)
    {arrival : Arrival α} (lower : ∀ high ∈ kept, arrival.rank alpha ≤ high.rank alpha) :
    Divides capacity alpha (arrivals ++ [arrival]) kept (arrival :: left) := by
  have size := divides.size
  refine ⟨List.perm_middle.trans (divides.cons_all arrival), ?_, ?_⟩
  · rw [List.length_append, List.length_singleton]
    omega
  · intro high inside low outside
    rcases List.mem_cons.mp outside with rfl | outside
    · exact lower high inside
    · exact divides.highest high inside low outside

theorem replace {lowest : Arrival α} {rest : List (Arrival α)}
    (divides : Divides capacity alpha arrivals kept left) (full : capacity ≤ kept.length)
    (apart : kept.Perm (lowest :: rest)) (least : ∀ high ∈ kept, lowest.rank alpha ≤ high.rank alpha)
    {arrival : Arrival α} (higher : lowest.rank alpha ≤ arrival.rank alpha) :
    Divides capacity alpha (arrivals ++ [arrival]) (arrival :: rest) (lowest :: left) := by
  have size := divides.size
  have shorter := apart.length_eq
  rw [List.length_cons] at shorter
  have inside : ∀ high ∈ rest, high ∈ kept := fun high member =>
    apart.mem_iff.mpr (List.mem_cons_of_mem lowest member)
  have lowestKept : lowest ∈ kept := apart.mem_iff.mpr List.mem_cons_self
  refine ⟨?_, ?_, ?_⟩
  · refine List.Perm.trans (List.Perm.cons arrival ?_) (divides.cons_all arrival)
    exact List.perm_middle.trans (apart.append_right left).symm
  · rw [List.length_cons, List.length_append, List.length_singleton]
    omega
  · intro high above low below
    rcases List.mem_cons.mp above with rfl | above
    · rcases List.mem_cons.mp below with rfl | below
      · exact higher
      · exact (divides.highest lowest lowestKept low below).trans higher
    · rcases List.mem_cons.mp below with rfl | below
      · exact least high (inside high above)
      · exact divides.highest high (inside high above) low below

end Divides

namespace DecayingSample

open PriorityHeap

/-- A sample that never moves its landmark holds the arrivals that rank highest. -/
structure KeepsHighest (capacity : Nat) (alpha : α) (arrivals : List (Arrival α)) (sample : DecayingSample α) :
    Prop where
  limit : sample.capacity = capacity
  factor : sample.alpha = alpha
  count : sample.count = arrivals.length
  ordered : Ordered sample.heap.entries
  held : ∃ kept left, Divides capacity alpha arrivals kept left ∧
    sample.heap.entries.toList.Perm (kept.map (Arrival.entry alpha sample.landmark))

theorem entry_scaled (alpha landmark moved : α) (arrival : Arrival α) :
    (arrival.entry alpha landmark).scaled (Number.exp (-alpha * (moved - landmark))) =
      arrival.entry alpha moved := by
  simp only [Arrival.entry, Weighted.scaled, mul_assoc, ← ExactNumber.exp_add]
  ring_nf

theorem entry_eq (sample : DecayingSample α) (arrival : Arrival α) :
    (⟨sample.priority arrival.time arrival.unit, arrival.value⟩ : Weighted α) =
      arrival.entry sample.alpha sample.landmark := by
  rw [Arrival.entry, Arrival.rank, div_mul_eq_mul_div, ← ExactNumber.exp_add, priority]
  ring_nf

theorem priority_entry_le_iff {alpha landmark : α} {low high : Arrival α} :
    (low.entry alpha landmark).priority ≤ (high.entry alpha landmark).priority ↔
      low.rank alpha ≤ high.rank alpha :=
  mul_le_mul_iff_left₀ (ExactNumber.exp_pos _)

theorem keepsHighest_empty (capacity : Nat) (alpha now : α) :
    (empty capacity alpha now).KeepsHighest capacity alpha [] :=
  ⟨rfl, rfl, rfl, ordered_empty, [], [], .nil, .refl _⟩

variable {capacity : Nat} {alpha : α} {arrivals : List (Arrival α)} {sample : DecayingSample α}

theorem KeepsHighest.takeIn (keeps : sample.KeepsHighest capacity alpha arrivals) (arrival : Arrival α) :
    ∃ kept left, Divides capacity alpha (arrivals ++ [arrival]) kept left ∧
      (sample.takeIn (arrival.entry alpha sample.landmark)).entries.toList.Perm
        (kept.map (Arrival.entry alpha sample.landmark)) := by
  obtain ⟨rfl, _, _, ordered, kept, left, divides, held⟩ := keeps
  have size : sample.heap.size = kept.length := by
    simpa [PriorityHeap.size] using held.length_eq
  unfold DecayingSample.takeIn
  split
  · rename_i room
    refine ⟨arrival :: kept, left, divides.keep (size ▸ room) arrival, ?_⟩
    exact (sample.heap.entries_insert_perm _).trans (held.cons _)
  · rename_i full
    rw [size, not_lt] at full
    split
    · rename_i least root
      have inside : least ∈ sample.heap.entries.toList := Array.mem_toList_iff.mpr (Array.mem_of_getElem? root)
      obtain ⟨lowest, lowestKept, rfl⟩ := List.mem_map.mp (held.mem_iff.mp inside)
      have lowestLeast : ∀ high ∈ kept, lowest.rank alpha ≤ high.rank alpha := fun high member =>
        priority_entry_le_iff.mp (ordered.least_le root (held.mem_iff.mpr (List.mem_map_of_mem member)))
      split
      · rename_i less
        obtain ⟨before, after, rfl⟩ := List.append_of_mem lowestKept
        have apart : (before ++ lowest :: after).Perm (lowest :: (before ++ after)) := List.perm_middle
        refine ⟨arrival :: (before ++ after), lowest :: left,
          divides.replace full apart lowestLeast (priority_entry_le_iff.mp less.le), ?_⟩
        refine (sample.heap.removeLeast.entries_insert_perm _).trans (List.Perm.cons _ ?_)
        have removed := cons_removeLeast_perm root
        exact (List.perm_cons _).mp (removed.trans (held.trans (apart.map _)))
      · rename_i more
        rw [not_lt, priority_entry_le_iff] at more
        exact ⟨kept, arrival :: left, divides.leave full fun high member => more.trans (lowestLeast high member),
          held⟩
    · rename_i root
      have none : sample.heap.size = 0 := by simpa [least?, PriorityHeap.size] using root
      obtain rfl : kept = [] := List.length_eq_zero_iff.mp (size ▸ none)
      exact ⟨[], arrival :: left, divides.leave full (List.forall_mem_nil _), held⟩

theorem KeepsHighest.stepUnmoved (keeps : sample.KeepsHighest capacity alpha arrivals) (use : SampleStep α α) :
    (sample.stepUnmoved use).KeepsHighest capacity alpha (use.arrivedAfter arrivals) := by
  cases use with
  | push value time unit =>
      obtain ⟨kept, left, divides, held⟩ := keeps.takeIn ⟨value, time, unit⟩
      obtain ⟨rfl, rfl, count, ordered, _⟩ := keeps
      have taken := sample.entry_eq ⟨value, time, unit⟩
      refine ⟨rfl, rfl, ?_, ordered_takeIn ordered _, kept, left, divides, ?_⟩
      · change sample.count + 1 = (arrivals ++ [_]).length
        rw [List.length_append, List.length_singleton, count]
      · rw [← taken] at held
        exact held
  | clear now =>
      obtain ⟨rfl, rfl, _⟩ := keeps
      exact keepsHighest_empty _ _ _

theorem KeepsHighest.held_movedTo (keeps : sample.KeepsHighest capacity alpha arrivals) (moved : α) :
    ∃ kept left, Divides capacity alpha arrivals kept left ∧
      (sample.movedTo moved).heap.entries.toList.Perm (kept.map (Arrival.entry alpha moved)) := by
  obtain ⟨_, rfl, _, _, kept, left, divides, held⟩ := keeps
  refine ⟨kept, left, divides, ?_⟩
  have scaled := held.map (Weighted.scaled (Number.exp (-sample.alpha * (moved - sample.landmark))))
  simp only [List.map_map, Function.comp_def, entry_scaled] at scaled
  rw [DecayingSample.movedTo, relabel, Array.toList_map]
  exact scaled

theorem values_movedTo (sample : DecayingSample α) (moved : α) :
    (sample.movedTo moved).heap.values = sample.heap.values := by
  simp only [movedTo, PriorityHeap.values, relabel, Array.toList_map, List.map_map, Function.comp_def,
    Weighted.scaled]

theorem KeepsHighest.run (steps : List (SampleStep α α)) : ∀ {sample : DecayingSample α}
    {arrivals : List (Arrival α)} (landmark : α), sample.KeepsHighest capacity alpha arrivals →
      ∃ moved, steps.foldl step (sample.movedTo landmark) =
          (steps.foldl DecayingSample.stepUnmoved sample).movedTo moved ∧
        (steps.foldl DecayingSample.stepUnmoved sample).KeepsHighest capacity alpha
          (steps.foldl SampleStep.arrivedAfter arrivals) := by
  induction steps with
  | nil => exact fun landmark keeps => ⟨landmark, rfl, keeps⟩
  | cons use rest ih =>
      intro sample arrivals landmark keeps
      obtain ⟨moved, stepped⟩ := step_movedTo keeps.ordered landmark use
      simp only [List.foldl_cons, stepped]
      exact ih moved (keeps.stepUnmoved use)

/-- A sample is the one that would be held if the landmark stayed where it was at the last clear: whatever is pushed,
at whatever times and in whatever order, and however often the landmark moves in between. It holds as many of the
arrivals as it has room for, none of which ranks below one that it does not hold, and each is stored with its
priority at the present landmark. -/
theorem run_keeps_highest (capacity : Nat) (alpha now : α) (steps : List (SampleStep α α)) :
    let sample := steps.foldl step (empty capacity alpha now)
    let unmoved := steps.foldl stepUnmoved (empty capacity alpha now)
    let arrivals := arrivalsIn steps
    sample.count = arrivals.length ∧
      (∃ kept left, Divides capacity alpha arrivals kept left ∧
        sample.heap.entries.toList.Perm (kept.map (Arrival.entry alpha sample.landmark))) ∧
      sample.heap.values = unmoved.heap.values := by
  intro sample unmoved arrivals
  obtain ⟨moved, same, keeps⟩ := KeepsHighest.run steps now (keepsHighest_empty capacity alpha now)
  replace same : sample = unmoved.movedTo moved := by
    rw [← same]
    exact congrArg (steps.foldl step) (movedTo_landmark (empty capacity alpha now)).symm
  rw [same]
  exact ⟨keeps.count, keeps.held_movedTo moved, values_movedTo unmoved moved⟩

end DecayingSample

end MetricAggregation
