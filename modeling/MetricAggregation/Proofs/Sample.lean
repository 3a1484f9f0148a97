import Mathlib.Data.List.Perm.Subperm
import MetricAggregation.Metric.Timer
import MetricAggregation.Proofs.PriorityHeap

/-!
What a sample keeps of the values that are pushed. Whatever is drawn, it keeps as many of them as it has room
for, and none that was not pushed or more often than that.
-/

namespace MetricAggregation

/-- A use of a sample. What is drawn for a push depends on the sample. -/
inductive SampleStep (α δ : Type) where
  | push (value time : α) (drawn : δ)
  | clear (time : α)

section Steps

variable {α δ : Type}

/-- The values pushed since the last clear, after one more step. -/
def SampleStep.pushedAfter (pushed : List α) : SampleStep α δ → List α
  | push value _ _ => pushed ++ [value]
  | clear _ => []

def pushedIn (steps : List (SampleStep α δ)) : List α := steps.foldl SampleStep.pushedAfter []

def UniformSample.step (sample : UniformSample α) : SampleStep α Nat → UniformSample α
  | .push value _ slot => sample.push value slot
  | .clear _ => sample.clear

variable [Number α]

def DecayingSample.step (sample : DecayingSample α) : SampleStep α α → DecayingSample α
  | .push value time unit => sample.push value time unit
  | .clear time => sample.clear time

def Sample.step (sample : Sample α) : SampleStep α (Draw α) → Sample α
  | .push value time draw => sample.push value time draw
  | .clear time => sample.clear time

/-- A reservoir has its draws with it. -/
def Reservoir.step (reservoir : Reservoir α) : SampleStep α Unit → Reservoir α
  | .push value time () => reservoir.push value time
  | .clear time => reservoir.clear time

end Steps

namespace Sample

section Keeping

variable {α : Type}

def capacity : Sample α → Nat
  | uniform sample => sample.capacity
  | decaying sample => sample.capacity

def isUniform : Sample α → Bool
  | uniform _ => true
  | decaying _ => false

/-- An empty sample of the flavour that a policy asks for. -/
def chosen (policy : ReservoirPolicy) (capacity : Nat) (alpha now : α) : Sample α :=
  match policy with
  | .resetOnFlush => .uniform (.empty capacity)
  | .continuous => .decaying (.empty capacity alpha now)

/-- A sample is a true sample of the values pushed since its last clear. -/
structure Keeps (capacity : Nat) (pushed : List α) (sample : Sample α) : Prop where
  limit : sample.capacity = capacity
  count : sample.count = pushed.length
  size : sample.size = min capacity pushed.length
  retained : sample.values.Subperm pushed
  whole : sample.isUniform → pushed.length ≤ capacity → sample.values = pushed

variable {capacity : Nat} {pushed : List α}

theorem keeps_chosen (policy : ReservoirPolicy) (capacity : Nat) (alpha now : α) :
    (chosen policy capacity alpha now).Keeps capacity [] := by
  cases policy with
  | resetOnFlush => exact ⟨rfl, rfl, (Nat.min_zero _).symm, .refl _, fun _ _ => rfl⟩
  | continuous => exact ⟨rfl, rfl, (Nat.min_zero _).symm, .refl _, nofun⟩

theorem length_values (sample : Sample α) : sample.values.length = sample.size := by
  cases sample with
  | uniform sample => exact Array.length_toList
  | decaying sample => exact sample.heap.length_values

/-- With room for all that was pushed, nothing is lost. -/
theorem Keeps.perm {sample : Sample α} (keeps : sample.Keeps capacity pushed) (room : pushed.length ≤ capacity) :
    sample.values.Perm pushed := by
  have size : sample.values.length = pushed.length := by
    rw [length_values, keeps.size, Nat.min_eq_right room]
  exact keeps.retained.perm_of_length_le (Nat.le_of_eq size.symm)

theorem cons_subperm_concat {kept : List α} (retained : kept.Subperm pushed) (value : α) :
    (value :: kept).Subperm (pushed ++ [value]) := by
  rw [(List.perm_append_singleton value pushed).subperm_left, List.subperm_cons]
  exact retained

theorem subperm_concat {kept : List α} (retained : kept.Subperm pushed) (value : α) :
    kept.Subperm (pushed ++ [value]) :=
  retained.trans (List.sublist_append_left pushed [value]).subperm

theorem set_subperm_concat {kept : List α} (retained : kept.Subperm pushed) (slot : Nat) (value : α) :
    (kept.set slot value).Subperm (pushed ++ [value]) := by
  by_cases bound : slot < kept.length
  · rw [(List.set_perm_cons_eraseIdx bound value).subperm_right]
    exact cons_subperm_concat ((List.eraseIdx_sublist kept slot).subperm.trans retained) value
  · rw [List.set_eq_of_length_le (Nat.le_of_not_lt bound)]
    exact subperm_concat retained value

theorem Keeps.push_uniform {sample : UniformSample α} (keeps : (uniform sample).Keeps capacity pushed)
    (value : α) (slot : Nat) : (uniform (sample.push value slot)).Keeps capacity (pushed ++ [value]) := by
  obtain ⟨rfl, count, size, retained, whole⟩ := keeps
  simp only [Sample.capacity, Sample.count, Sample.size, Sample.values] at count size retained whole
  have counted : sample.count + 1 = (pushed ++ [value]).length := by simp [count]
  by_cases room : sample.count < sample.capacity
  · have added : (sample.push value slot).values = sample.values.push value := if_pos room
    refine ⟨rfl, counted, ?_, ?_, ?_⟩
    all_goals simp only [Sample.capacity, Sample.size, Sample.values, added, Array.size_push,
      Array.toList_push, List.length_append, List.length_singleton]
    · omega
    · rw [(List.perm_append_singleton value sample.values.toList).subperm_right]
      exact cons_subperm_concat retained value
    · intro _ _
      rw [whole rfl (by omega)]
  · have replaced : (sample.push value slot).values = sample.values.setIfInBounds slot value := if_neg room
    refine ⟨rfl, counted, ?_, ?_, ?_⟩
    all_goals simp only [Sample.capacity, Sample.size, Sample.values, replaced, Array.size_setIfInBounds,
      Array.toList_setIfInBounds, List.length_append, List.length_singleton]
    · omega
    · exact set_subperm_concat retained slot value
    · intro _ _
      omega

theorem Keeps.clear_uniform {sample : UniformSample α} (keeps : (uniform sample).Keeps capacity pushed) :
    (uniform sample.clear).Keeps capacity [] := by
  obtain ⟨rfl, _⟩ := keeps
  exact ⟨rfl, rfl, (Nat.min_zero _).symm, .refl _, fun _ _ => rfl⟩

theorem Keeps.clear_decaying {sample : DecayingSample α} (keeps : (decaying sample).Keeps capacity pushed)
    (now : α) : (decaying (sample.clear now)).Keeps capacity [] := by
  obtain ⟨rfl, _⟩ := keeps
  exact ⟨rfl, rfl, (Nat.min_zero _).symm, .refl _, nofun⟩

theorem Keeps.clear {sample : Sample α} (keeps : sample.Keeps capacity pushed) (now : α) :
    (sample.clear now).Keeps capacity [] := by
  cases sample with
  | uniform sample => exact keeps.clear_uniform
  | decaying sample => exact keeps.clear_decaying now

variable [Number α]

theorem Keeps.rescaleIfDue {sample : DecayingSample α} (keeps : (decaying sample).Keeps capacity pushed)
    (time : α) : (decaying (sample.rescaleIfDue time)).Keeps capacity pushed := by
  unfold DecayingSample.rescaleIfDue
  split
  · have same := sample.heap.values_scale_perm (Number.exp (-sample.alpha * (time - sample.landmark)))
    exact ⟨keeps.limit, keeps.count, (sample.heap.size_scale _).trans keeps.size,
      same.subperm_right.mpr keeps.retained, nofun⟩
  · exact keeps

theorem Keeps.takeIn {sample : DecayingSample α} (keeps : (decaying sample).Keeps capacity pushed)
    (entry : Weighted α) :
    (sample.takeIn entry).size = min capacity (pushed.length + 1) ∧
      (sample.takeIn entry).values.Subperm (pushed ++ [entry.value]) := by
  obtain ⟨rfl, _, size, retained, _⟩ := keeps
  simp only [Sample.capacity, Sample.size, Sample.values] at size retained ⊢
  -- An entry is added, takes the place of the least one, or is left out.
  unfold DecayingSample.takeIn
  split
  · have added := sample.heap.values_insert_perm entry
    refine ⟨?_, added.subperm_right.mpr (cons_subperm_concat retained entry.value)⟩
    rw [PriorityHeap.size_insert]
    omega
  · split
    · rename_i least root
      split
      · have removed := PriorityHeap.cons_values_removeLeast_perm root
        have fewer : sample.heap.removeLeast.values.Subperm pushed :=
          ((List.sublist_cons_self _ _).subperm.trans removed.subperm).trans retained
        have added := sample.heap.removeLeast.values_insert_perm entry
        refine ⟨?_, added.subperm_right.mpr (cons_subperm_concat fewer entry.value)⟩
        rw [PriorityHeap.size_insert, PriorityHeap.size_removeLeast root]
        omega
      · exact ⟨by omega, subperm_concat retained entry.value⟩
    · exact ⟨by omega, subperm_concat retained entry.value⟩

theorem Keeps.push_decaying {sample : DecayingSample α} (keeps : (decaying sample).Keeps capacity pushed)
    (value time unit : α) :
    (decaying (sample.push value time unit)).Keeps capacity (pushed ++ [value]) := by
  have rescaled := keeps.rescaleIfDue time
  have taken := rescaled.takeIn ⟨(sample.rescaleIfDue time).priority time unit, value⟩
  refine ⟨rescaled.limit, ?_, ?_, taken.2, nofun⟩
  · rw [List.length_append]
    exact congrArg (· + 1) rescaled.count
  · rw [List.length_append]
    exact taken.1

theorem Keeps.push {sample : Sample α} (keeps : sample.Keeps capacity pushed) (value now : α) (draw : Draw α) :
    (sample.push value now draw).Keeps capacity (pushed ++ [value]) := by
  cases sample with
  | uniform sample => exact keeps.push_uniform value _
  | decaying sample => exact keeps.push_decaying value now draw.unit

end Keeping

section Runs

variable {α δ σ : Type} {capacity : Nat} {step : σ → SampleStep α δ → σ}

/-- What steps keep of a sample, however it is stored, a run of them keeps. -/
theorem keeps_foldl (view : σ → Sample α)
    (kept : ∀ {state : σ} {pushed : List α} (use : SampleStep α δ),
      (view state).Keeps capacity pushed → (view (step state use)).Keeps capacity (use.pushedAfter pushed))
    (steps : List (SampleStep α δ)) : ∀ {state : σ} {pushed : List α}, (view state).Keeps capacity pushed →
      (view (steps.foldl step state)).Keeps capacity (steps.foldl SampleStep.pushedAfter pushed) := by
  induction steps with
  | nil => exact fun keeps => keeps
  | cons first rest ih => exact fun keeps => ih (kept first keeps)

variable [Number α]

/-- Uniform samples, decaying ones and those whose flavour is chosen when they are made are true samples,
whatever is pushed, at whatever times and with whatever draws: they count what was pushed since the last
clear, and keep as many of the values as they have room for. A reservoir draws for itself. -/
theorem keeps_pushedIn (capacity : Nat) (alpha now : α) :
    (∀ steps : List (SampleStep α Nat),
      (uniform (steps.foldl UniformSample.step (.empty capacity))).Keeps capacity (pushedIn steps)) ∧
    (∀ steps : List (SampleStep α α),
      (decaying (steps.foldl DecayingSample.step (.empty capacity alpha now))).Keeps capacity
        (pushedIn steps)) ∧
    (∀ (policy : ReservoirPolicy) (steps : List (SampleStep α (Draw α))),
      (steps.foldl Sample.step (chosen policy capacity alpha now)).Keeps capacity (pushedIn steps)) ∧
    (∀ (policy : ReservoirPolicy) (draws : Nat → Draw α) (steps : List (SampleStep α Unit)),
      (steps.foldl Reservoir.step (.ofSample (chosen policy capacity alpha now) draws)).sample.Keeps capacity
        (pushedIn steps)) ∧
    (UniformSample.new? capacity = .ok (.empty capacity : UniformSample α) ↔ 0 < capacity) ∧
    (DecayingSample.new? capacity alpha now = .ok (.empty capacity alpha now) ↔ 0 < capacity) := by
  refine ⟨?_, ?_, ?_, ?_, ?_, ?_⟩
  · refine fun steps => keeps_foldl uniform ?_ steps (keeps_chosen .resetOnFlush capacity alpha now)
    intro sample pushed use keeps
    cases use with
    | push value time slot => exact keeps.push_uniform value slot
    | clear time => exact keeps.clear_uniform
  · refine fun steps => keeps_foldl decaying ?_ steps (keeps_chosen .continuous capacity alpha now)
    intro sample pushed use keeps
    cases use with
    | push value time unit => exact keeps.push_decaying value time unit
    | clear time => exact keeps.clear_decaying time
  · refine fun policy steps => keeps_foldl id ?_ steps (keeps_chosen policy capacity alpha now)
    intro sample pushed use keeps
    cases use with
    | push value time draw => exact keeps.push value time draw
    | clear time => exact keeps.clear time
  · refine fun policy draws steps =>
      keeps_foldl Reservoir.sample ?_ steps (keeps_chosen policy capacity alpha now)
    intro reservoir pushed use keeps
    cases use with
    | push value time => exact keeps.push value time _
    | clear time => exact keeps.clear time
  · by_cases none : capacity = 0
    · simp [UniformSample.new?, none]
    · simp [UniformSample.new?, none, Nat.pos_of_ne_zero none]
  · by_cases none : capacity = 0
    · simp [DecayingSample.new?, none]
    · simp [DecayingSample.new?, none, Nat.pos_of_ne_zero none]

end Runs

end Sample

end MetricAggregation
