import MetricAggregation.Proofs.OrderedNumber
import MetricAggregation.Distinct.SlidingCounter

/-!
What a counter of distinct items sees within a window. Every position holds the time of the item that hit it last. As
long as no item comes at an earlier time than one before it, that time lies within the window exactly if any item within
the window hit the position, so nothing else counts.
-/

namespace MetricAggregation

variable {α : Type} [Number α]

namespace SlidingRow

/-- The position that an item hits. -/
def hitBy (box : SBox) (buckets : Nat) (item : List UInt8) : Nat :=
  min (trailingZeros (box.hash item)) (buckets - 1)

/-- The row that items were added to, each at a time. -/
def fed (box : SBox) (buckets : Nat) (adds : List (α × List UInt8)) : SlidingRow α :=
  adds.foldl (fun row add => row.add add.1 add.2) (.empty box buckets)

/-- When a position was last hit; zero if it never was. -/
def lastHit (box : SBox) (buckets : Nat) (adds : List (α × List UInt8)) (position : Nat) : α :=
  (adds.reverse.find? fun add => hitBy box buckets add.2 = position).elim 0 Prod.fst

/-- How many positions from the start of a row are hit by items, up to the first that is not. -/
def hitRun (box : SBox) (buckets : Nat) (items : List (List UInt8)) : Nat :=
  ((List.range buckets).takeWhile fun position => items.any fun item => hitBy box buckets item = position).length

variable (box : SBox) (buckets : Nat)

theorem lastHit_append (adds : List (α × List UInt8)) (add : α × List UInt8) (position : Nat) :
    lastHit box buckets (adds ++ [add]) position =
      if hitBy box buckets add.2 = position then add.1 else lastHit box buckets adds position := by
  rw [lastHit, List.reverse_append, List.reverse_singleton, List.singleton_append, List.find?_cons]
  by_cases hit : hitBy box buckets add.2 = position <;> simp [hit, lastHit]

theorem lastHit_cases (adds : List (α × List UInt8)) (position : Nat) :
    (∃ add ∈ adds, hitBy box buckets add.2 = position ∧ lastHit box buckets adds position = add.1) ∨
      ((∀ add ∈ adds, hitBy box buckets add.2 ≠ position) ∧ lastHit box buckets adds position = 0) := by
  cases found : adds.reverse.find? fun add => hitBy box buckets add.2 = position with
  | some add =>
      have hit : hitBy box buckets add.2 = position := by simpa using List.find?_some found
      exact .inl ⟨add, List.mem_reverse.mp (List.mem_of_find?_eq_some found), hit, by rw [lastHit, found]; rfl⟩
  | none =>
      refine .inr ⟨fun add member => ?_, by rw [lastHit, found]; rfl⟩
      simpa using List.find?_eq_none.mp found add (List.mem_reverse.mpr member)

theorem fed_eq (adds : List (α × List UInt8)) :
    fed box buckets adds = ⟨box, (List.range buckets).map (lastHit box buckets adds)⟩ := by
  induction adds using List.reverseRecOn with
  | nil =>
      have never : lastHit box buckets ([] : List (α × List UInt8)) = fun _ => 0 := rfl
      rw [fed, List.foldl_nil, never, List.map_const', List.length_range, empty]
  | append_singleton adds add ih =>
      have hit : position ⟨box, (List.range buckets).map (lastHit box buckets adds)⟩ add.2 =
          hitBy box buckets add.2 := by
        simp [position, hitBy]
      rw [fed, List.foldl_concat, ← fed, ih, SlidingRow.add, hit, SlidingRow.mk.injEq]
      refine ⟨rfl, List.ext_getElem (by simp) fun position _ _ => ?_⟩
      simp [List.getElem_set, lastHit_append]

/-- What lies within a window stays there: no item comes before the window once one came within it. -/
def Settled (since : α) (adds : List (α × List UInt8)) : Prop :=
  adds.Pairwise fun earlier later => since < earlier.1 → since < later.1

theorem lt_lastHit_iff {since : α} (start : ¬since < 0) {adds : List (α × List UInt8)} (settled : Settled since adds)
    (position : Nat) :
    since < lastHit box buckets adds position ↔
      ∃ add ∈ adds, since < add.1 ∧ hitBy box buckets add.2 = position := by
  induction adds using List.reverseRecOn with
  | nil => exact iff_of_false start (by simp)
  | append_singleton adds add ih =>
      obtain ⟨before, _, last⟩ := List.pairwise_append.mp settled
      rw [lastHit_append]
      by_cases hit : hitBy box buckets add.2 = position
      · rw [if_pos hit]
        constructor
        · exact fun within => ⟨add, by simp, within, hit⟩
        · rintro ⟨other, member, within, _⟩
          rcases List.mem_append.mp member with earlier | same
          · exact last other earlier add List.mem_cons_self within
          · exact List.mem_singleton.mp same ▸ within
      · rw [if_neg hit, ih before]
        simp [or_and_right, exists_or, hit]

theorem hitRun_congr {items others : List (List UInt8)} (same : ∀ item, item ∈ items ↔ item ∈ others) :
    hitRun box buckets items = hitRun box buckets others := by
  have hits (position : Nat) : (items.any fun item => hitBy box buckets item = position) =
      others.any fun item => hitBy box buckets item = position := by
    rw [Bool.eq_iff_iff]
    simp only [List.any_eq_true, same]
  simp only [hitRun, hits]

theorem run_fed {since : α} (start : ¬since < 0) {adds : List (α × List UInt8)} (settled : Settled since adds) :
    (fed box buckets adds).run since =
      hitRun box buckets ((adds.filter fun add => since < add.1).map Prod.snd) := by
  have hits (position : Nat) : decide (since < lastHit box buckets adds position) =
      ((adds.filter fun add => since < add.1).map Prod.snd).any
        fun item => hitBy box buckets item = position := by
    rw [Bool.eq_iff_iff, decide_eq_true_iff, lt_lastHit_iff box buckets start settled]
    simp
  simp only [run, fed_eq, List.takeWhile_map, List.length_map, hitRun, Function.comp_def, hits]

end SlidingRow

namespace SlidingCounter

open SlidingRow (Settled hitRun run_fed hitRun_congr)

/-- The counter that items were added to, each at a time. -/
def fed (boxes : List SBox) (buckets : Nat) (adds : List (α × List UInt8)) : SlidingCounter α :=
  adds.foldl (fun counter add => counter.add add.1 add.2) (empty boxes buckets)

theorem rows_fed (boxes : List SBox) (buckets : Nat) (adds : List (α × List UInt8)) :
    (fed boxes buckets adds).rows = boxes.map fun box => SlidingRow.fed box buckets adds := by
  induction adds using List.reverseRecOn with
  | nil => rfl
  | append_singleton adds add ih =>
      simp only [fed, SlidingRow.fed, List.foldl_concat] at ih ⊢
      rw [SlidingCounter.add, ih, List.map_map]
      rfl

theorem totalRun_eq_sum (counter : SlidingCounter α) (since : α) :
    counter.totalRun since = (counter.rows.map fun row => row.run since).sum := by
  rw [totalRun, List.sum_eq_foldl, List.foldl_map]

theorem totalRun_fed (boxes : List SBox) (buckets : Nat) {since : α} (start : ¬since < 0)
    {adds : List (α × List UInt8)} (settled : Settled since adds) :
    (fed boxes buckets adds).totalRun since =
      (boxes.map fun box => hitRun box buckets ((adds.filter fun add => since < add.1).map Prod.snd)).sum := by
  rw [totalRun_eq_sum, rows_fed, List.map_map]
  simp only [Function.comp_def, run_fed _ _ start settled]

variable [OrderedNumber α]

/-- A window from zero or later sees its own items and nothing else, however many hash functions and buckets there are:
the estimate is that of the items within the window, and it is the same for any counter that only the same items came to
within the window, in whatever order, at whatever times and however often. -/
theorem distinct_eq_of_same_window (boxes : List SBox) (buckets : Nat) {history window : List (α × List UInt8)}
    {since : α} (ordered : history.Pairwise fun earlier later => earlier.1 ≤ later.1) (nonneg : 0 ≤ since)
    (within : ∀ add ∈ window, since < add.1)
    (same : ∀ item, (∃ add ∈ window, add.2 = item) ↔ ∃ add ∈ history, since < add.1 ∧ add.2 = item) :
    (fed boxes buckets history).distinct since = (fed boxes buckets window).distinct since ∧
      (fed boxes buckets history).distinct since =
        estimate α (boxes.map fun box => hitRun box buckets (window.map Prod.snd)).sum boxes.length := by
  have start : ¬since < 0 := OrderedNumber.not_lt_of_le nonneg
  have settled : Settled since history :=
    ordered.imp fun later within => OrderedNumber.lt_of_lt_of_le within later
  have settledWindow : Settled since window :=
    List.pairwise_of_forall_mem_list fun _ _ add member _ => within add member
  have counted {adds : List (α × List UInt8)} (settled : Settled since adds)
      (same : ∀ item, (∃ add ∈ window, add.2 = item) ↔ ∃ add ∈ adds, since < add.1 ∧ add.2 = item) :
      (fed boxes buckets adds).distinct since =
        estimate α (boxes.map fun box => hitRun box buckets (window.map Prod.snd)).sum boxes.length := by
    have runs (box : SBox) : hitRun box buckets ((adds.filter fun add => since < add.1).map Prod.snd) =
        hitRun box buckets (window.map Prod.snd) := by
      refine hitRun_congr box buckets fun item => ?_
      simp only [List.mem_map, List.mem_filter, decide_eq_true_eq, and_assoc, same]
    rw [distinct, totalRun_fed boxes buckets start settled, rows_fed, List.length_map]
    simp only [runs]
  have seen := counted settled same
  refine ⟨seen.trans (counted settledWindow fun item => ?_).symm, seen⟩
  exact exists_congr fun add => and_congr_right fun member => (and_iff_right (within add member)).symm

/-- Two items at the second reading, one of them again: the counter that was given just these, the other way round and
one of them later, has the same estimate, from a run of two positions. An item before the window hit a third. -/
theorem distinct_eq_of_same_window_twoReadings :
    let boxes : List SBox := [⟨.ofFn fun byte => byte.val.toUInt32⟩]
    let history : List (Double × List UInt8) := [(1.0, [4]), (1.0, [1]), (2.0, [2]), (2.0, [1]), (2.0, [2])]
    let window : List (Double × List UInt8) := [(3.0, [1]), (2.0, [2])]
    (history.Pairwise fun earlier later => earlier.1 ≤ later.1) ∧ (0 : Double) ≤ 1.5 ∧
      (∀ add ∈ window, (1.5 : Double) < add.1) ∧
      (∀ item, (∃ add ∈ window, add.2 = item) ↔ ∃ add ∈ history, (1.5 : Double) < add.1 ∧ add.2 = item) ∧
      (fed boxes 32 history).distinct 1.5 = (fed boxes 32 window).distinct 1.5 ∧
      (fed boxes 32 history).distinct 1.5 = estimate Double 2 1 := by
  intro boxes history window
  have ordered : history.Pairwise fun earlier later => earlier.1 ≤ later.1 := by decide +kernel
  have nonneg : (0 : Double) ≤ 1.5 := by decide +kernel
  have within : ∀ add ∈ window, (1.5 : Double) < add.1 := by decide +kernel
  have same (item : List UInt8) :
      (∃ add ∈ window, add.2 = item) ↔ ∃ add ∈ history, (1.5 : Double) < add.1 ∧ add.2 = item := by
    have before : ¬(1.5 : Double) < 1.0 := by decide +kernel
    have after : (1.5 : Double) < 2.0 := by decide +kernel
    simpa [window, history, before, after, or_comm] using Or.inr
  have run : (boxes.map fun box => hitRun box 32 (window.map Prod.snd)).sum = 2 := by decide +kernel
  obtain ⟨equal, seen⟩ := distinct_eq_of_same_window boxes 32 ordered nonneg within same
  exact ⟨ordered, nonneg, within, same, equal, run ▸ seen⟩

end SlidingCounter

end MetricAggregation
