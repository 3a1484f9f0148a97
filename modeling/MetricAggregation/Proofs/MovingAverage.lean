import Mathlib.Algebra.BigOperators.Intervals
import Mathlib.Data.List.GetD
import Mathlib.Data.List.Induction
import Mathlib.Tactic.Linarith
import MetricAggregation.Metric.Meter
import MetricAggregation.Proofs.ExactNumber

/-!
Moving averages of meters. Ticks cut the events into intervals, and over exact numbers an average is a weighted sum of
the rates of the intervals that have ended, each event counted in the one interval in which it came.
-/

namespace MetricAggregation

/-- A use of an average: some events come, or an interval ends. -/
inductive AverageStep (α : Type) where
  | update (events : α)
  | tick

def AverageStep.events? {α : Type} : AverageStep α → Option α
  | update events => some events
  | tick => none

def MovingAverage.step {α : Type} [Number α] (average : MovingAverage α) : AverageStep α → MovingAverage α
  | .update events => average.update events
  | .tick => average.tick

def Meter.step {α : Type} [Number α] (meter : Meter α) : AverageStep α → Meter α
  | .update events => meter.mark events
  | .tick => meter.tick

/-- Events by intervals: those of each interval that a tick has ended, and those since the last tick. -/
structure Intervals (α : Type) where
  ended : List (List α)
  running : List α

namespace Intervals

variable {α : Type}

def add (intervals : Intervals α) : AverageStep α → Intervals α
  | .update events => { intervals with running := intervals.running ++ [events] }
  | .tick => ⟨intervals.ended ++ [intervals.running], []⟩

def of (steps : List (AverageStep α)) : Intervals α := steps.foldl add ⟨[], []⟩

def steps (intervals : Intervals α) : List (AverageStep α) :=
  intervals.ended.flatMap (fun events => events.map .update ++ [.tick]) ++ intervals.running.map .update

theorem steps_add (intervals : Intervals α) (use : AverageStep α) :
    (intervals.add use).steps = intervals.steps ++ [use] := by
  cases use with
  | update events => simp [add, steps]
  | tick => simp [add, steps]

/-- No step is lost in the intervals, and none is moved. -/
theorem steps_of (given : List (AverageStep α)) : (of given).steps = given := by
  induction given using List.reverseRecOn with
  | nil => rfl
  | append_singleton given use ih => rw [of, List.foldl_concat, ← of, steps_add, ih]

/-- In events per second; the interval that is running has no rate yet. -/
def rates [ExactNumber α] (intervals : Intervals α) (seconds : α) : List α :=
  intervals.ended.map fun events => events.sum / seconds

end Intervals

variable {α : Type} [ExactNumber α]

section Blend

variable {alpha : α} {rates : List α}

/-- The weighted sum of the rates of intervals: the rate of the first one fades with every later interval, as does that of
a later one, which comes in with the weight `alpha`. -/
def blend (alpha : α) (rates : List α) : α :=
  if rates.isEmpty then 0
  else (1 - alpha) ^ (rates.length - 1) * rates.getD 0 0 +
    ∑ number ∈ Finset.Icc 2 rates.length, alpha * (1 - alpha) ^ (rates.length - number) * rates.getD (number - 1) 0

theorem blend_singleton (alpha rate : α) : blend alpha [rate] = rate := by
  simp [blend]

theorem blend_concat (filled : rates ≠ []) (latest : α) :
    blend alpha (rates ++ [latest]) = blend alpha rates + alpha * (latest - blend alpha rates) := by
  have positive : 0 < rates.length := List.length_pos_iff.mpr filled
  have first : (rates ++ [latest]).getD 0 0 = rates.getD 0 0 := List.getD_append _ _ _ _ positive
  have last : (rates ++ [latest]).getD rates.length 0 = latest := by simp
  have fading : (1 - alpha) ^ rates.length = (1 - alpha) * (1 - alpha) ^ (rates.length - 1) :=
    (mul_pow_sub_one positive.ne' _).symm
  -- Every weight but the last one fades once more.
  have earlier : ∀ number ∈ Finset.Icc 2 rates.length,
      alpha * (1 - alpha) ^ (rates.length + 1 - number) * (rates ++ [latest]).getD (number - 1) 0 =
        (1 - alpha) * (alpha * (1 - alpha) ^ (rates.length - number) * rates.getD (number - 1) 0) := by
    intro number member
    rw [Finset.mem_Icc] at member
    rw [List.getD_append _ _ _ _ (by omega), Nat.sub_add_comm member.2, pow_succ]
    ring
  rw [blend, blend, if_neg (by simp), if_neg (by simpa using filled), List.length_append, List.length_singleton,
    Finset.sum_Icc_succ_top (by omega), Finset.sum_congr rfl earlier, ← Finset.mul_sum, Nat.add_sub_cancel, first,
    last, fading, Nat.sub_self, pow_zero]
  ring

/-- Between bounds on all rates, a step towards the latest rate stays. -/
theorem blend_mem {lower upper : α} (nonneg : 0 ≤ alpha) (atMost : alpha ≤ 1) (filled : rates ≠ [])
    (bounded : ∀ rate ∈ rates, lower ≤ rate ∧ rate ≤ upper) :
    lower ≤ blend alpha rates ∧ blend alpha rates ≤ upper := by
  induction rates using List.reverseRecOn with
  | nil => exact absurd rfl filled
  | append_singleton rates latest ih =>
      have last := bounded latest (by simp)
      by_cases first : rates = []
      · subst first
        rw [List.nil_append, blend_singleton]
        exact last
      · have before := ih first fun rate member => bounded rate (List.mem_append_left _ member)
        rw [blend_concat first]
        -- The new average is a mean of the old one and the latest rate.
        have weight : 0 ≤ 1 - alpha := sub_nonneg.mpr atMost
        have oldLower := mul_le_mul_of_nonneg_left before.1 weight
        have oldUpper := mul_le_mul_of_nonneg_left before.2 weight
        have newLower := mul_le_mul_of_nonneg_left last.1 nonneg
        have newUpper := mul_le_mul_of_nonneg_left last.2 nonneg
        constructor
        · linarith
        · linarith

theorem blend_between (nonneg : 0 ≤ alpha) (atMost : alpha ≤ 1) (filled : rates ≠ []) :
    ∃ least ∈ rates, ∃ greatest ∈ rates, (∀ rate ∈ rates, least ≤ rate ∧ rate ≤ greatest) ∧
      least ≤ blend alpha rates ∧ blend alpha rates ≤ greatest := by
  obtain ⟨least, leastEq⟩ := Option.ne_none_iff_exists'.mp (mt List.min?_eq_none_iff.mp filled)
  obtain ⟨greatest, greatestEq⟩ := Option.ne_none_iff_exists'.mp (mt List.max?_eq_none_iff.mp filled)
  have lowest := List.min?_eq_some_iff.mp leastEq
  have highest := List.max?_eq_some_iff.mp greatestEq
  have bounded : ∀ rate ∈ rates, least ≤ rate ∧ rate ≤ greatest :=
    fun rate member => ⟨lowest.2 rate member, highest.2 rate member⟩
  exact ⟨least, lowest.1, greatest, highest.1, bounded, blend_mem nonneg atMost filled bounded⟩

end Blend

namespace MovingAverage

/-- An average has taken in the intervals that have ended, and holds back the events of the one that is running. -/
structure Follows (alpha seconds : α) (intervals : Intervals α) (average : MovingAverage α) : Prop where
  weight : average.alpha = alpha
  interval : average.interval = seconds
  started : average.started = !intervals.ended.isEmpty
  rate : average.rate = blend alpha (intervals.rates seconds)
  uncounted : average.uncounted = intervals.running.sum

variable {alpha seconds : α} {intervals : Intervals α} {average : MovingAverage α}

theorem Follows.update (follows : average.Follows alpha seconds intervals) (events : α) :
    (average.update events).Follows alpha seconds (intervals.add (.update events)) where
  weight := follows.weight
  interval := follows.interval
  started := follows.started
  rate := follows.rate
  uncounted := by
    rw [Intervals.add, List.sum_append, List.sum_singleton, ← follows.uncounted]
    rfl

theorem Follows.tick (follows : average.Follows alpha seconds intervals) :
    average.tick.Follows alpha seconds (intervals.add .tick) where
  weight := follows.weight
  interval := follows.interval
  started := by simp [MovingAverage.tick, Intervals.add]
  rate := by
    have taken : (intervals.add .tick).rates seconds =
        intervals.rates seconds ++ [average.uncounted / average.interval] := by
      rw [follows.uncounted, follows.interval]
      exact List.map_append
    rw [MovingAverage.tick, taken, follows.started, follows.weight, follows.rate]
    by_cases first : intervals.ended = []
    · have none : intervals.rates seconds = [] := by rw [Intervals.rates, first, List.map_nil]
      simp [first, none, blend_singleton]
    · have filled : intervals.rates seconds ≠ [] := mt List.map_eq_nil_iff.mp first
      simp [first, blend_concat filled]
  uncounted := List.sum_nil.symm

theorem Follows.step (follows : average.Follows alpha seconds intervals) (use : AverageStep α) :
    (average.step use).Follows alpha seconds (intervals.add use) := by
  cases use with
  | update events => exact follows.update events
  | tick => exact follows.tick

theorem follows_run (alpha seconds : α) (steps : List (AverageStep α)) :
    (steps.foldl step (new alpha seconds)).Follows alpha seconds (.of steps) := by
  induction steps using List.reverseRecOn with
  | nil => exact ⟨rfl, rfl, rfl, rfl, List.sum_nil.symm⟩
  | append_singleton steps use ih =>
      rw [List.foldl_concat, Intervals.of, List.foldl_concat]
      exact ih.step use

theorem rate_foldl_update (later : List α) : ∀ average : MovingAverage α,
    (later.foldl update average).rate = average.rate := by
  induction later with
  | nil => exact fun _ => rfl
  | cons events rest ih => exact fun average => ih (average.update events)

/-- What an average tells of the rates of the intervals that have ended. Events that come later do not count yet. -/
structure Averages (rates : List α) (average : MovingAverage α) : Prop where
  rate : average.rate = blend average.alpha rates
  between : 0 ≤ average.alpha → average.alpha ≤ 1 → rates ≠ [] →
    ∃ least ∈ rates, ∃ greatest ∈ rates, (∀ rate ∈ rates, least ≤ rate ∧ rate ≤ greatest) ∧
      least ≤ average.rate ∧ average.rate ≤ greatest
  waiting : ∀ later : List α, (later.foldl update average).rate = average.rate

theorem Follows.averages (follows : average.Follows alpha seconds intervals) :
    average.Averages (intervals.rates seconds) := by
  have rate : average.rate = blend average.alpha (intervals.rates seconds) := by rw [follows.weight, follows.rate]
  refine ⟨rate, fun nonneg atMost filled => ?_, fun later => rate_foldl_update later average⟩
  rw [rate]
  exact blend_between nonneg atMost filled

theorem loadAlpha_mem (growing : Monotone (Number.exp : α → α)) (minutes : Nat) :
    0 ≤ (loadAlpha minutes : α) ∧ (loadAlpha minutes : α) ≤ 1 := by
  have past : -(tickSeconds : α) / ((60 : Nat) : α) / (minutes : α) ≤ 0 :=
    div_nonpos_of_nonpos_of_nonneg
      (div_nonpos_of_nonpos_of_nonneg (neg_nonpos.mpr (Nat.cast_nonneg _)) (Nat.cast_nonneg _)) (Nat.cast_nonneg _)
  have fading := growing past
  rw [ExactNumber.exp_zero] at fading
  exact ⟨sub_nonneg.mpr fading, sub_le_self 1 (ExactNumber.exp_pos _).le⟩

end MovingAverage

namespace Meter

/-- The averages of a meter, each with the number of minutes that it is over. -/
def averages (meter : Meter α) : List (Nat × MovingAverage α) :=
  [(1, meter.oneMinute), (5, meter.fiveMinutes), (15, meter.fifteenMinutes)]

theorem averages_step (meter : Meter α) (use : AverageStep α) :
    (meter.step use).averages = meter.averages.map fun entry => (entry.1, entry.2.step use) := by
  cases use <;> rfl

theorem averages_run (steps : List (AverageStep α)) (now : α) :
    (steps.foldl step (new now)).averages =
      [1, 5, 15].map fun minutes => (minutes, steps.foldl MovingAverage.step (.overMinutes minutes)) := by
  induction steps using List.reverseRecOn with
  | nil => rfl
  | append_singleton steps use ih =>
      simp only [List.foldl_concat, averages_step, ih, List.map_map, Function.comp_def]

theorem count_run (steps : List (AverageStep α)) (now : α) :
    (steps.foldl step (new now)).count = (steps.filterMap AverageStep.events?).sum := by
  induction steps using List.reverseRecOn with
  | nil => exact List.sum_nil.symm
  | append_singleton steps use ih =>
      rw [List.foldl_concat, List.filterMap_append, List.sum_append, ← ih]
      cases use with
      | update events => exact (congrArg (_ + ·) List.sum_singleton).symm
      | tick => exact (add_zero _).symm

end Meter

/-- Each event is averaged exactly once. After any updates and ticks, an average is a weighted sum of the rates of the
intervals between ticks, zero before the first tick, and lies between the least and the greatest of these rates if its
weight lies in the unit interval; the events since the last tick are held back. The three averages of a meter are such
sums of the same rates, with weights that lie there if the exponential function grows, and its count is that of all
events. -/
theorem MovingAverage.averages_each_event_once (alpha seconds : α) (steps : List (AverageStep α)) :
    let intervals := Intervals.of steps
    let average := steps.foldl step (new alpha seconds)
    intervals.steps = steps ∧
      (average.alpha = alpha ∧ average.uncounted = intervals.running.sum ∧
        average.Averages (intervals.rates seconds)) ∧
      ∀ now : α,
        let meter := steps.foldl Meter.step (Meter.new now)
        meter.count = (steps.filterMap AverageStep.events?).sum ∧
          ∀ minutes load, (minutes, load) ∈ meter.averages →
            load.alpha = loadAlpha minutes ∧ load.Averages (intervals.rates (tickSeconds : α)) ∧
              (Monotone (Number.exp : α → α) → 0 ≤ load.alpha ∧ load.alpha ≤ 1) := by
  intro intervals average
  have follows := follows_run alpha seconds steps
  refine ⟨Intervals.steps_of steps, ⟨follows.weight, follows.uncounted, follows.averages⟩, fun now => ?_⟩
  refine ⟨Meter.count_run steps now, fun minutes load member => ?_⟩
  rw [Meter.averages_run, List.mem_map] at member
  obtain ⟨_, _, same⟩ := member
  cases same
  have held := follows_run (loadAlpha minutes) (tickSeconds : α) steps
  exact ⟨held.weight, held.averages, fun growing => held.weight.symm ▸ loadAlpha_mem growing minutes⟩

end MetricAggregation
