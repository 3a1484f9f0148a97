import MetricAggregation.Proofs.SlidingWindow
import MetricAggregation.Distinct.Metric
import MetricAggregation.Double.Number

/-!
What a metric of distinct items sees in windows of different lengths. A position holds the time of the last item that
hit it, so a longer window sees no less. Only a window that reaches back to before the time zero sees more than there
ever was: a position that nothing hit has the time zero too.
-/

namespace MetricAggregation

variable {α : Type}

section Totals

variable [Number α]

theorem SlidingRow.run_le_run (row : SlidingRow α) {earlier later : α}
    (after : ∀ time : α, later < time → earlier < time) : row.run later ≤ row.run earlier := by
  unfold SlidingRow.run
  induction row.times with
  | nil => simp
  | cons time rest ih =>
      by_cases seen : later < time
      · simp only [List.takeWhile_cons, seen, after time seen, decide_true, if_true, List.length_cons]
        omega
      · simp [List.takeWhile_cons, seen]

namespace SlidingCounter

theorem totalRun_le_totalRun (counter : SlidingCounter α) {earlier later : α}
    (after : ∀ time : α, later < time → earlier < time) : counter.totalRun later ≤ counter.totalRun earlier := by
  rw [totalRun_eq_sum, totalRun_eq_sum]
  exact List.sum_le_sum fun row _ => row.run_le_run after

theorem totalRun_empty (boxes : List SBox) (buckets : Nat) (since : α) :
    (empty boxes buckets).totalRun since = if since < 0 then boxes.length * buckets else 0 := by
  have row (box : SBox) : (SlidingRow.empty box buckets).run since = if since < 0 then buckets else 0 := by
    by_cases before : since < 0 <;> simp [SlidingRow.run, SlidingRow.empty, before]
  simp only [totalRun_eq_sum, empty, List.map_map, Function.comp_def, row, List.map_const', List.sum_replicate,
    smul_eq_mul]
  split <;> simp

end SlidingCounter

namespace DistinctMetric

/-- The metric that a history of items was given to, each at a reading of the clock. -/
def fed (boxes : Nat → SBox) (history : List (α × String)) : DistinctMetric α :=
  history.foldl (fun metric item => metric.update item.1 item.2) (.new boxes)

/-- A history with the items as bytes. -/
def adds (history : List (α × String)) : List (α × List UInt8) :=
  history.map fun item => (item.1, item.2.toUTF8.toList)

theorem counter_fed (boxes : Nat → SBox) (history : List (α × String)) :
    (fed boxes history).counter = .fed ((List.range hashes).map boxes) buckets (adds history) := by
  induction history using List.reverseRecOn with
  | nil => rfl
  | append_singleton history item ih =>
      rw [fed, List.foldl_concat, ← fed, update, ih]
      simp [SlidingCounter.fed, adds]

theorem rows_fed (boxes : Nat → SBox) (history : List (α × String)) :
    (fed boxes history).counter.rows =
      (List.range hashes).map fun number => SlidingRow.fed (boxes number) buckets (adds history) := by
  rw [counter_fed, SlidingCounter.rows_fed, List.map_map]
  rfl

theorem totalRun_fed_nil (boxes : Nat → SBox) (since : α) :
    (fed boxes ([] : List (α × String))).counter.totalRun since = if since < 0 then hashes * buckets else 0 := by
  rw [fed, List.foldl_nil, new, SlidingCounter.totalRun_empty, List.length_map, List.length_range]

end DistinctMetric

variable [OrderedNumber α]

theorem SlidingCounter.totalRun_le_of_le (counter : SlidingCounter α) {earlier later : α} (le : earlier ≤ later) :
    counter.totalRun later ≤ counter.totalRun earlier :=
  counter.totalRun_le_totalRun fun _ seen => OrderedNumber.lt_of_le_of_lt le seen

/-- Windows that begin one after the other see no more one after the other, also where numbers are rounded. -/
theorem DistinctMetric.totals_ordered (metric : DistinctMetric α) {now : α}
    (minute : now - (3600 : Nat) ≤ now - (60 : Nat)) (hour : now - (86400 : Nat) ≤ now - (3600 : Nat)) :
    let total (seconds : Nat) := metric.counter.totalRun (now - (seconds : α))
    total 60 ≤ total 3600 ∧ total 3600 ≤ total 86400 :=
  ⟨metric.counter.totalRun_le_of_le minute, metric.counter.totalRun_le_of_le hour⟩

end Totals

section Windows

variable [ExactNumber α]

theorem nonpos_of_mem_find? {times : List α} {time : α} (found : time ∈ times.find? (· ≤ 0)) : time ≤ 0 := by
  simpa using List.find?_some found

theorem SlidingRow.run_le_run_zero_iff (row : SlidingRow α) (since : α) :
    row.run since ≤ row.run 0 ↔ ∀ time ∈ row.times.find? (· ≤ 0), time ≤ since := by
  unfold SlidingRow.run
  induction row.times with
  | nil => simp
  | cons time rest ih =>
      by_cases counted : 0 < time
      · by_cases seen : since < time
        · simpa [counted, seen] using ih
        · have before : ∀ other ∈ rest.find? (· ≤ 0), other ≤ since := fun other found =>
            (nonpos_of_mem_find? found).trans (counted.le.trans (not_lt.mp seen))
          simpa [counted, seen] using before
      · by_cases seen : since < time <;> simp [counted, seen, not_lt.mp counted, not_lt.mp]

namespace SlidingCounter

theorem totalRun_le_totalRun_zero_iff (counter : SlidingCounter α) (since : α) :
    counter.totalRun since ≤ counter.totalRun 0 ↔
      ∀ row ∈ counter.rows, ∀ time ∈ row.times.find? (· ≤ 0), time ≤ since := by
  constructor
  · intro total row member time found
    by_contra late
    have early := nonpos_of_mem_find? found
    -- No row has a shorter run than that of all items, so one with a longer run makes the total greater.
    have atLeast : ∀ row ∈ counter.rows, row.run 0 ≤ row.run since := fun row _ =>
      row.run_le_run fun _ counted => ((not_le.mp late).trans_le early).trans counted
    have more : row.run 0 < row.run since := by
      rw [← not_le, SlidingRow.run_le_run_zero_iff]
      exact fun ends => late (ends time found)
    have sums := List.sum_lt_sum (l := counter.rows) _ _ atLeast ⟨row, member, more⟩
    rw [← totalRun_eq_sum, ← totalRun_eq_sum] at sums
    omega
  · intro ends
    rw [totalRun_eq_sum, totalRun_eq_sum]
    exact List.sum_le_sum fun row member => (row.run_le_run_zero_iff since).mpr (ends row member)

theorem estimate_mono (growing : Monotone (Number.exp2 : α → α)) (rows : Nat) :
    Monotone fun total => estimate α total rows := by
  have positive : (0 : α) < bias := by
    rw [bias, ExactNumber.ofDecimal_eq]
    positivity
  intro fewer more le
  have average : (fewer : α) / (rows : α) ≤ (more : α) / (rows : α) :=
    div_le_div_of_nonneg_right (by exact_mod_cast le) (Nat.cast_nonneg rows)
  exact ExactNumber.floorNat_mono
    (ExactNumber.round_mono (div_le_div_of_nonneg_right (growing average) positive.le))

end SlidingCounter

namespace DistinctMetric

open SlidingRow (hitBy lastHit lastHit_cases)

/-- When the first position of a hash function that a count of all items leaves out was last hit. -/
def firstLeftOut? (box : SBox) (history : List (α × String)) : Option α :=
  ((List.range buckets).map (lastHit box buckets (adds history))).find? (· ≤ 0)

/-- A window leaves out what a count of all items leaves out first, for every hash function. -/
def LeavesOut (boxes : Nat → SBox) (history : List (α × String)) (since : α) : Prop :=
  ∀ number < hashes, ∀ time ∈ firstLeftOut? (boxes number) history, time ≤ since

theorem of_mem_firstLeftOut? {box : SBox} {history : List (α × String)} {time : α}
    (found : time ∈ firstLeftOut? box history) :
    time ≤ 0 ∧ ∃ position, lastHit box buckets (adds history) position = time := by
  obtain ⟨position, _, last⟩ := List.mem_map.mp (List.mem_of_find?_eq_some found)
  exact ⟨nonpos_of_mem_find? found, position, last⟩

theorem firstLeftOut?_eq_none_iff {box : SBox} {history : List (α × String)} :
    firstLeftOut? box history = none ↔ ∀ position < buckets, 0 < lastHit box buckets (adds history) position := by
  simp [firstLeftOut?, List.find?_eq_none]

variable (boxes : Nat → SBox) (history : List (α × String)) {since : α}

theorem leavesOut_of_nonneg (nonneg : 0 ≤ since) : LeavesOut boxes history since := fun _ _ _ found =>
  (of_mem_firstLeftOut? found).1.trans nonneg

/-- With a clock past zero, what a count of all items leaves out was never hit, so that a window from before zero
does not leave it out. -/
theorem leavesOut_iff_of_neg (positive : ∀ item ∈ history, 0 < item.1) (negative : since < 0) :
    LeavesOut boxes history since ↔
      ∀ number < hashes, ∀ position < buckets,
        ∃ add ∈ adds history, hitBy (boxes number) buckets add.2 = position := by
  have timed : ∀ add ∈ adds history, 0 < add.1 := List.forall_mem_map.mpr positive
  have hit_iff (box : SBox) (position : Nat) : 0 < lastHit box buckets (adds history) position ↔
      ∃ add ∈ adds history, hitBy box buckets add.2 = position := by
    rcases lastHit_cases box buckets (adds history) position with ⟨add, member, hit, last⟩ | ⟨missed, last⟩
    · exact iff_of_true (last ▸ timed add member) ⟨add, member, hit⟩
    · exact iff_of_false (by simp [last]) fun ⟨add, member, hit⟩ => missed add member hit
  have never_neg (box : SBox) (position : Nat) : 0 ≤ lastHit box buckets (adds history) position := by
    rcases lastHit_cases box buckets (adds history) position with ⟨add, member, _, last⟩ | ⟨_, last⟩
    · exact last ▸ (timed add member).le
    · exact last.ge
  simp only [← hit_iff, ← firstLeftOut?_eq_none_iff]
  constructor
  · intro leaves number below
    rw [Option.eq_none_iff_forall_not_mem]
    intro time found
    obtain ⟨_, position, rfl⟩ := of_mem_firstLeftOut? found
    exact absurd ((leaves number below _ found).trans_lt negative) (never_neg _ position).not_gt
  · intro none number below time found
    rw [none number below] at found
    cases found

theorem totalRun_fed_le_iff :
    (fed boxes history).counter.totalRun since ≤ (fed boxes history).counter.totalRun 0 ↔
      LeavesOut boxes history since := by
  rw [SlidingCounter.totalRun_le_totalRun_zero_iff, rows_fed, List.forall_mem_map]
  simp only [List.mem_range, SlidingRow.fed_eq, LeavesOut, firstLeftOut?]

theorem length_rows_fed : (fed boxes history).counter.rows.length = hashes := by
  rw [rows_fed, List.length_map, List.length_range]

/-- A longer window sees no less, whatever items came at whatever readings of the clock. Against all items this is so
exactly if the window leaves out what their count leaves out: always if it begins at zero or later, and otherwise, with
a clock past zero, only once every position was hit. What a flush reports grows with the totals. -/
theorem windows_grow_iff (growing : Monotone (Number.exp2 : α → α)) (boxes : Nat → SBox)
    (history : List (α × String)) (now : α) (path : String) (timestamp : Nat) :
    let metric := fed boxes history
    let total (seconds : α) := metric.counter.totalRun (now - seconds)
    let all := metric.counter.totalRun 0
    let estimate (total : Nat) := SlidingCounter.estimate α total hashes
    (total 60 ≤ total 3600 ∧ total 3600 ≤ total 86400) ∧
    (total 86400 ≤ all ↔ LeavesOut boxes history (now - 86400)) ∧
    (86400 ≤ now → total 86400 ≤ all) ∧
    (now < 86400 → (∀ item ∈ history, 0 < item.1) → (total 86400 ≤ all ↔
      ∀ number < hashes, ∀ position < buckets,
        ∃ add ∈ adds history, hitBy (boxes number) buckets add.2 = position)) ∧
    Monotone estimate ∧
    metric.report path now timestamp =
      [⟨joinPath path "count", (estimate all : α), timestamp⟩,
        ⟨joinPath path "count_1day", (estimate (total 86400) : α), timestamp⟩,
        ⟨joinPath path "count_1hour", (estimate (total 3600) : α), timestamp⟩,
        ⟨joinPath path "count_1min", (estimate (total 60) : α), timestamp⟩] ∧
    (estimate (total 60) ≤ estimate (total 3600) ∧ estimate (total 3600) ≤ estimate (total 86400)) ∧
    (total 86400 ≤ all → estimate (total 86400) ≤ estimate all) := by
  intro metric total all estimate
  have monotone : Monotone estimate := SlidingCounter.estimate_mono growing hashes
  have longer {short long : Nat} (le : short ≤ long) : now - (long : α) ≤ now - (short : α) :=
    sub_le_sub_left (by exact_mod_cast le) now
  obtain ⟨minute, hour⟩ : total 60 ≤ total 3600 ∧ total 3600 ≤ total 86400 := by
    simpa only [Nat.cast_ofNat] using metric.totals_ordered (longer (by decide)) (longer (by decide))
  have leaves : total 86400 ≤ all ↔ LeavesOut boxes history (now - 86400) := totalRun_fed_le_iff boxes history
  refine ⟨⟨minute, hour⟩, leaves, ?_, ?_, monotone, ?_, ⟨monotone minute, monotone hour⟩, fun day => monotone day⟩
  · exact fun late => leaves.mpr (leavesOut_of_nonneg boxes history (sub_nonneg.mpr late))
  · exact fun early positive => leaves.trans (leavesOut_iff_of_neg boxes history positive (sub_neg.mpr early))
  · simp only [report, statistics, count, countWithin, SlidingCounter.distinct, List.map_cons, List.map_nil,
      Nat.cast_ofNat, metric, length_rows_fed, estimate, total, all]

theorem windows_grow_iff_dayPastZero :
    Monotone (Number.exp2 : ℝ → ℝ) ∧
      let metric : DistinctMetric ℝ := fed (fun _ => ⟨.replicate 256 0⟩) [(86400, "gorets")]
      metric.countWithin 86400 60 ≤ metric.countWithin 86400 3600 ∧
        metric.countWithin 86400 3600 ≤ metric.countWithin 86400 86400 ∧
        metric.countWithin 86400 86400 ≤ metric.count := by
  have growing : Monotone (Number.exp2 : ℝ → ℝ) := fun _ _ le =>
    Real.rpow_le_rpow_of_exponent_le one_le_two le
  refine ⟨growing, ?_⟩
  intro metric
  obtain ⟨_, _, late, _, _, _, ⟨minute, hour⟩, day⟩ :=
    windows_grow_iff growing (fun _ => ⟨.replicate 256 0⟩) [(86400, "gorets")] 86400 "" 0
  simp only [countWithin, count, SlidingCounter.distinct, metric, length_rows_fed]
  exact ⟨minute, hour, day (late le_rfl)⟩

/-- Nothing was seen yet and the clock is at zero, but the windows reach back to before that, so that every position
counts as hit. Doubles give the same totals. -/
theorem day_exceeds_all_at_zero :
    let metric : DistinctMetric ℝ := fed (fun _ => ⟨.replicate 256 0⟩) []
    let doubles : DistinctMetric Double := fed (fun _ => ⟨.replicate 256 0⟩) []
    metric.counter.totalRun (0 - 86400) = 1024 ∧ metric.counter.totalRun 0 = 0 ∧
      metric.report "stats.pdistinct.gorets" 0 0 =
        [⟨"stats.pdistinct.gorets.count", 1, 0⟩, ⟨"stats.pdistinct.gorets.count_1day", 5552568546, 0⟩,
          ⟨"stats.pdistinct.gorets.count_1hour", 5552568546, 0⟩,
          ⟨"stats.pdistinct.gorets.count_1min", 5552568546, 0⟩] ∧
      doubles.counter.totalRun (0 - (86400 : Nat)) = 1024 ∧ doubles.counter.totalRun 0 = 0 := by
  intro metric doubles
  have totals (since : ℝ) : metric.counter.totalRun since = if since < 0 then hashes * buckets else 0 :=
    totalRun_fed_nil _ since
  have doubled (since : Double) : doubles.counter.totalRun since = if since < 0 then hashes * buckets else 0 :=
    totalRun_fed_nil _ since
  have nothing : SlidingCounter.estimate ℝ 0 hashes = 1 := by
    refine ExactNumber.floorNat_round_eq_of_near ?_
    norm_num [Number.exp2, SlidingCounter.bias, Number.ofDecimal, abs_lt]
  have everything : SlidingCounter.estimate ℝ (hashes * buckets) hashes = 5552568546 := by
    refine ExactNumber.floorNat_round_eq_of_near ?_
    norm_num [Number.exp2, SlidingCounter.bias, Number.ofDecimal, abs_lt, hashes, buckets]
  have spelled : ["count", "count_1day", "count_1hour", "count_1min"].map (joinPath "stats.pdistinct.gorets") =
      ["stats.pdistinct.gorets.count", "stats.pdistinct.gorets.count_1day", "stats.pdistinct.gorets.count_1hour",
        "stats.pdistinct.gorets.count_1min"] := by decide
  simp only [List.map_cons, List.map_nil, List.cons.injEq, and_true] at spelled
  have before : (0 : Double) - ((86400 : Nat) : Double) < 0 := by decide +kernel
  have atZero : ¬(0 : Double) < 0 := by decide +kernel
  refine ⟨?_, ?_, ?_, ?_, ?_⟩
  · norm_num [totals, hashes, buckets]
  · norm_num [totals]
  · norm_num [report, statistics, count, countWithin, SlidingCounter.distinct, totals, length_rows_fed, metric,
      spelled, nothing, everything]
  · rw [doubled, if_pos before]
    rfl
  · rw [doubled, if_neg atZero]

end DistinctMetric

end Windows

end MetricAggregation
