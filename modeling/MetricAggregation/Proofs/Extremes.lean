import MetricAggregation.Proofs.Aggregates
import MetricAggregation.Proofs.OrderedNumber

/-!
What a histogram tells of all values recorded since it was cleared, also of those that its sample has dropped: how many
there were, their sum, and the least and the greatest of them, as long as none is undefined.
-/

namespace MetricAggregation

section Foremost

variable {α : Type} {before : α → α → Prop} {values : List α} {value kept : α}

/-- One of some values that comes before all of them. -/
structure IsForemost (before : α → α → Prop) (values : List α) (value : α) : Prop where
  mem : value ∈ values
  ahead : ∀ other ∈ values, before value other

variable [DecidableRel before]

/-- What is kept gives way to a value that it does not come before. -/
def foremost (before : α → α → Prop) [DecidableRel before] (kept? : Option α) (value : α) : α :=
  match kept? with
  | some kept => if before kept value then kept else value
  | none => value

theorem IsForemost.concat (leads : IsForemost before values kept)
    (trans : ∀ {first second third : α}, before first second → before second third → before first third)
    (compared : before kept value ∨ before value kept) (self : before value value) :
    IsForemost before (values ++ [value]) (foremost before (some kept) value) := by
  unfold foremost
  dsimp only
  split
  · rename_i ahead
    refine ⟨List.mem_append_left _ leads.mem, fun other member => ?_⟩
    rcases List.mem_append.mp member with earlier | last
    · exact leads.ahead other earlier
    · exact List.mem_singleton.mp last ▸ ahead
  · -- The new value comes before the one that gives way, and so before all that this one came before.
    rename_i behind
    refine ⟨List.mem_append_right _ (List.mem_singleton_self value), fun other member => ?_⟩
    rcases List.mem_append.mp member with earlier | last
    · exact trans (compared.resolve_left behind) (leads.ahead other earlier)
    · exact List.mem_singleton.mp last ▸ self

theorem foldl_foremost (before : α → α → Prop) [DecidableRel before] (filled : values ≠ [])
    (trans : ∀ {first second third : α}, before first second → before second third → before first third)
    (total : ∀ left ∈ values, ∀ right ∈ values, before left right ∨ before right left) :
    ∃ kept, values.foldl (fun kept? value => some (foremost before kept? value)) none = some kept ∧
      IsForemost before values kept := by
  induction values using List.reverseRecOn with
  | nil => exact absurd rfl filled
  | append_singleton values value ih =>
      have last : value ∈ values ++ [value] := List.mem_append_right _ (List.mem_singleton_self value)
      have self : before value value := (total value last value last).elim id id
      rw [List.foldl_concat]
      by_cases first : values = []
      · subst first
        refine ⟨value, rfl, List.mem_singleton_self value, fun other member => ?_⟩
        exact List.mem_singleton.mp member ▸ self
      · have earlier : ∀ left ∈ values, ∀ right ∈ values, before left right ∨ before right left :=
          fun left leftMember right rightMember =>
            total left (List.mem_append_left _ leftMember) right (List.mem_append_left _ rightMember)
        obtain ⟨kept, keptEq, leads⟩ := ih first earlier
        rw [keptEq]
        exact ⟨_, rfl, leads.concat trans (total kept (List.mem_append_left _ leads.mem) value last) self⟩

end Foremost

namespace Totals

variable {α : Type} [Number α]

theorem sum_of (values : List α) : (of values).sum = values.foldl (· + ·) 0 :=
  (List.foldl_hom Totals.sum fun _ _ => rfl).symm

theorem least?_of (values : List α) :
    (of values).least? = values.foldl (fun least? value => some (foremost (· ≤ ·) least? value)) none :=
  (List.foldl_hom Totals.least? fun _ _ => rfl).symm

theorem greatest?_of (values : List α) : (of values).greatest? =
    values.foldl (fun greatest? value => some (foremost (fun one other => other ≤ one) greatest? value)) none :=
  (List.foldl_hom Totals.greatest? fun _ _ => rfl).symm

end Totals

namespace Histogram

section Defined

variable {histogram : Histogram Double} {values : List Double} (filled : values ≠ [])
  (defined : ∀ value ∈ values, value.isUndefined = false)
include filled defined

theorem isForemost_foldl (before : Double → Double → Prop) [DecidableRel before]
    (trans : ∀ {first second third : Double}, before first second → before second third → before first third)
    (total : ∀ {left right : Double}, left.isUndefined = false → right.isUndefined = false →
      before left right ∨ before right left) :
    IsForemost before values
      ((values.foldl (fun kept? value => some (foremost before kept? value)) none).getD 0) := by
  obtain ⟨kept, keptEq, leads⟩ := foldl_foremost before filled trans
    fun left leftMember right rightMember => total (defined left leftMember) (defined right rightMember)
  rw [keptEq]
  exact leads

theorem isForemost_least (recorded : histogram.totals = .of values) :
    IsForemost (· ≤ ·) values histogram.least := by
  have kept := congrArg Totals.least? recorded
  rw [Totals.least?_of] at kept
  rw [Histogram.least, show histogram.least? = _ from kept]
  exact isForemost_foldl filled defined _ Double.le_trans Double.le_total

theorem isForemost_greatest (recorded : histogram.totals = .of values) :
    IsForemost (fun one other => other ≤ one) values histogram.greatest := by
  have kept := congrArg Totals.greatest? recorded
  rw [Totals.greatest?_of] at kept
  rw [Histogram.greatest, show histogram.greatest? = _ from kept]
  exact isForemost_foldl filled defined _ (fun above below => Double.le_trans below above)
    fun left right => Double.le_total right left

end Defined

/-- The aggregates of a histogram follow from the values recorded since the last clear alone, whatever its sample and its
draws, and so do not suffer when the sample drops a value. They are the number of these values, their sum in the order in
which they came, and, if there are any and none is undefined, one of them that none is below and one that none is
above. -/
theorem aggregates_run (reservoir : Reservoir Double) (steps : List (SampleStep Double Unit)) :
    let histogram := steps.foldl step (ofReservoir reservoir)
    let recorded := pushedIn steps
    (∀ (other : Reservoir Double) (others : List (SampleStep Double Unit)), pushedIn others = recorded →
        histogram.SameAggregates (others.foldl step (ofReservoir other))) ∧
      histogram.count = recorded.length ∧
      histogram.sum = recorded.foldl (· + ·) 0 ∧
      (recorded ≠ [] → (∀ value ∈ recorded, value.isUndefined = false) →
        (histogram.least ∈ recorded ∧ ∀ value ∈ recorded, histogram.least ≤ value) ∧
          histogram.greatest ∈ recorded ∧ ∀ value ∈ recorded, value ≤ histogram.greatest) := by
  intro histogram recorded
  have totals : histogram.totals = .of recorded := totals_run reservoir steps
  refine ⟨?_, count_run reservoir steps, ?_, ?_⟩
  · intro other others same
    exact sameAggregates_of_totals (by rw [totals, totals_run, same])
  · rw [← Totals.sum_of, ← totals]
    rfl
  · intro filled defined
    have least := isForemost_least filled defined totals
    have greatest := isForemost_greatest filled defined totals
    exact ⟨⟨least.mem, least.ahead⟩, greatest.mem, greatest.ahead⟩

theorem aggregates_run_of_dropped :
    let draws : Nat → Draw Double := fun _ => ⟨fun _ => 0, 1⟩
    let steps : List (SampleStep Double Unit) :=
      [.push (-3.0) 0 (), .clear 0, .push 2.0 0 (), .push 9.0 0 (), .push (-0.0) 0 (), .push 4.0 0 ()]
    let histogram := steps.foldl step (ofReservoir (.ofSample (.uniform (.empty 1)) draws))
    pushedIn steps = [2.0, 9.0, -0.0, 4.0] ∧ histogram.reservoir.values = [4.0] ∧
      pushedIn steps ≠ [] ∧ (∀ value ∈ pushedIn steps, value.isUndefined = false) ∧
      (histogram.least ∈ pushedIn steps ∧ ∀ value ∈ pushedIn steps, histogram.least ≤ value) ∧
      histogram.greatest ∈ pushedIn steps ∧ ∀ value ∈ pushedIn steps, value ≤ histogram.greatest := by
  intro draws steps histogram
  have defined : ∀ value ∈ pushedIn steps, value.isUndefined = false := by
    decide +kernel
  have described := aggregates_run (.ofSample (.uniform (.empty 1)) draws) steps
  exact ⟨rfl, rfl, nofun, defined, described.2.2.2 nofun defined⟩

end Histogram

end MetricAggregation
