import Mathlib.Tactic.FieldSimp
import MetricAggregation.Proofs.ExactNumber
import MetricAggregation.Proofs.Schedule
import MetricAggregation.Proofs.ScopedTimer

/-!
The rates of counters in the flushes of a scheduler. A flush is handed the interval at which it is due, and a poll that
comes late flushes what was counted in a longer time.
-/

namespace MetricAggregation

namespace Duration

variable {α : Type} [ExactNumber α]

theorem seconds_eq (duration : Duration) : duration.seconds α = (duration.nanoseconds : α) / 1000000000 := by
  have parts : (duration.nanoseconds : α) =
      1000000000 * ((duration.nanoseconds / 1000000000 : Nat) : α) +
        ((duration.nanoseconds % 1000000000 : Nat) : α) := by
    exact_mod_cast (Nat.div_add_mod duration.nanoseconds 1000000000).symm
  rw [seconds, parts]
  push_cast
  field_simp

theorem seconds_pos_iff {duration : Duration} : 0 < duration.seconds α ↔ 0 < duration.nanoseconds := by
  rw [seconds_eq, div_pos_iff_of_pos_right (by norm_num), Nat.cast_pos]

theorem seconds_inj {first second : Duration} : first.seconds α = second.seconds α ↔ first = second := by
  rw [seconds_eq, seconds_eq, div_left_inj' (by norm_num), Nat.cast_inj]
  constructor
  · intro same
    cases first
    cases second
    exact congrArg mk same
  · exact congrArg nanoseconds

end Duration

variable {α φ μ σ : Type} [ExactNumber α] [MetricFactory φ] [MetricPlugin φ μ α]

/-- A rate is that of the interval it is told. In another time it makes the count only if nothing was counted. -/
theorem Counter.rate_mul_seconds_eq_iff (counter : Counter α) (interval elapsed : Duration) :
    counter.rate (interval.seconds α) * elapsed.seconds α = counter.value ↔
      counter.value = 0 ∨ 0 < interval.nanoseconds ∧ elapsed = interval := by
  rw [← Duration.seconds_pos_iff (α := α), ← Duration.seconds_inj (α := α), rate]
  by_cases positive : 0 < interval.seconds α
  · rw [if_pos positive, div_mul_eq_mul_div, div_eq_iff positive.ne', mul_eq_mul_left_iff, or_comm]
    simp only [positive, true_and]
  · simp only [positive, if_false, zero_mul, false_and, or_false, eq_comm]

theorem Engine.reportedOf_counter_rate {engine : Engine α φ μ} {key : String} {counter : Counter α}
    (found : engine.counters.find? key = some counter) (interval : Duration) (percent : Nat) :
    reportedOf ⟨.counter, key, "rate"⟩ (engine.attributedFlush interval percent) =
      [counter.rate (interval.seconds α)] := by
  rw [reportedOf_counter_statistic, found]
  simp

omit [MetricFactory φ] [MetricPlugin φ μ α] in
theorem Visit.counters_ready (visit : Visit α φ μ) : visit.ready.counters = visit.before.counters := by
  unfold ready
  split
  · rfl
  · rfl

namespace Scheduler

variable (send : σ → ByteArray → Bool × σ) (sink : σ)

/-- A flush of a poll is handed the flush interval, which is at most the time since the last poll with a flush, or the
start. The rate that it reports of a counter makes its count in that time exactly if nothing was counted or the poll
came when it was due, to the nanosecond. -/
theorem rate_eq_elapsed_rate_iff (engine : Engine α φ μ) (writer : PayloadWriter)
    (flushInterval tickInterval : Duration) (percent start : Nat) (moves : List (Move α)) :
    let visits := (Scheduler.new engine writer flushInterval tickInterval percent start).visits send sink moves
    ∀ last visit, (last, visit) ∈ Visit.afterLast Visit.flushed start visits → visit.flushed →
      let elapsed : Duration := ⟨visit.now - last⟩
      let points := visit.ready.attributedFlush flushInterval percent
      visit.reports = [points.map Attributed.point] ∧
        flushInterval.nanoseconds ≤ elapsed.nanoseconds ∧
        ∀ key counter, visit.before.counters.find? key = some counter → ∃ rate,
          reportedOf ⟨.counter, key, "rate"⟩ points = [rate] ∧
            reportedOf ⟨.counter, key, "count"⟩ points = [counter.value] ∧
            (rate * elapsed.seconds α = counter.value ↔
              counter.value = 0 ∨ 0 < flushInterval.nanoseconds ∧ elapsed = flushInterval) := by
  intro visits last visit member flushed elapsed points
  have kept := onSchedule_new engine writer flushInterval tickInterval percent start
  have due : last + flushInterval.nanoseconds ≤ visit.now :=
    ((punctual_visits send moves sink kept).2 _ member).mp flushed
  have runs := run_of_mem_visits send moves sink kept visit (Visit.mem_of_mem_afterLast member)
  refine ⟨Visit.reports_of_run runs flushed, Nat.le_sub_of_add_le' due, fun key counter found => ?_⟩
  have ready : visit.ready.counters.find? key = some counter := by rw [Visit.counters_ready, found]
  refine ⟨_, Engine.reportedOf_counter_rate ready flushInterval percent, ?_,
    counter.rate_mul_seconds_eq_iff flushInterval elapsed⟩
  rw [Engine.reportedOf_counter, ready]
  rfl

section LateFlush

/-- Flushes are due every ten seconds from the start at zero. -/
noncomputable def everyTenSeconds : Scheduler ℝ Empty Empty :=
  .new (.new .default (.ofSeed 0) .empty (1000 : Nat)) (.empty 8192) (.ofSeconds 10) (.ofSeconds 5) 90 0

/-- Fifty events are counted, and the first poll comes after twenty-five seconds. -/
def latePoll : List (Move ℝ) := [.give (.increment "gorets" 50), .poll (Duration.ofSeconds 25).nanoseconds]

theorem visits_latePoll : ∃ visit, everyTenSeconds.visits (fun _ _ => (true, ())) () latePoll = [visit] ∧
    visit.now = (Duration.ofSeconds 25).nanoseconds ∧ visit.flushed ∧
      visit.before.counters.find? "gorets" = some ⟨50⟩ := by
  refine ⟨_, rfl, rfl, ?_, ?_⟩
  · exact (flushed_visit _ _).mpr (by decide)
  · have named : Key.normalize "gorets" = "gorets" := by decide +kernel
    have counted (engine : Engine ℝ Empty Empty) :
        engine.increment "gorets" 50 = engine.updateCounter "gorets" 50 1 := by
      rw [Engine.increment, Engine.directKey_of_named (by rw [named]; decide), named]
    show ((everyTenSeconds.engine.increment "gorets" 50).counters.find? "gorets") = _
    rw [counted]
    simp [Engine.updateCounter, Table.find?_upsert, everyTenSeconds, new, Engine.new, Counter.update, Counter.zero]

theorem rate_eq_elapsed_rate_iff_latePoll :
    let visits := everyTenSeconds.visits (fun _ _ => (true, ())) () latePoll
    let elapsed := Duration.ofSeconds 25
    ∃ visit, visits = [visit] ∧ visit.now = elapsed.nanoseconds ∧ visit.flushed ∧
      visit.before.counters.find? "gorets" = some ⟨50⟩ ∧ ∃ rate,
        reportedOf ⟨.counter, "gorets", "rate"⟩ (visit.ready.attributedFlush (.ofSeconds 10) 90) = [rate] ∧
          (rate * elapsed.seconds ℝ = 50 ↔ (50 : ℝ) = 0 ∨ 0 < (Duration.ofSeconds 10).nanoseconds ∧ elapsed = .ofSeconds 10) := by
  intro visits elapsed
  obtain ⟨visit, only, now, flushed, found⟩ := visits_latePoll
  obtain ⟨-, -, rates⟩ := rate_eq_elapsed_rate_iff (fun _ _ => (true, ())) () everyTenSeconds.engine (.empty 8192)
    (.ofSeconds 10) (.ofSeconds 5) 90 0 latePoll 0 visit (only ▸ List.mem_cons_self) flushed
  obtain ⟨rate, reported, -, agrees⟩ := rates "gorets" ⟨50⟩ found
  rw [now] at agrees
  exact ⟨visit, only, now, flushed, found, rate, reported, agrees⟩

/-- A flush of what was counted in twenty-five seconds reports the rate of ten, which makes more than twice the count
in the time that has passed. -/
theorem rate_of_latePoll :
    let visits := everyTenSeconds.visits (fun _ _ => (true, ())) () latePoll
    ∃ visit, visits = [visit] ∧ visit.now = (Duration.ofSeconds 25).nanoseconds ∧
      let points := visit.ready.attributedFlush (.ofSeconds 10) 90
      visit.reports = [points.map Attributed.point] ∧
        reportedOf ⟨.counter, "gorets", "rate"⟩ points = [5] ∧
        reportedOf ⟨.counter, "gorets", "count"⟩ points = [50] ∧
        (5 : ℝ) * (Duration.ofSeconds 25).seconds ℝ ≠ 50 := by
  intro visits
  obtain ⟨visit, only, now, flushed, found⟩ := visits_latePoll
  have ready : visit.ready.counters.find? "gorets" = some ⟨50⟩ := by rw [Visit.counters_ready, found]
  have runs := run_of_mem_visits (fun _ _ => (true, ())) latePoll ()
    (onSchedule_new everyTenSeconds.engine (.empty 8192) (.ofSeconds 10) (.ofSeconds 5) 90 0) visit
    (only ▸ List.mem_cons_self)
  refine ⟨visit, only, now, Visit.reports_of_run runs flushed, ?_, ?_, ?_⟩
  · rw [Engine.reportedOf_counter_rate ready]
    norm_num [Counter.rate, Duration.seconds_eq, Duration.ofSeconds]
  · rw [Engine.reportedOf_counter, ready]
    rfl
  · norm_num [Duration.seconds_eq, Duration.ofSeconds]

end LateFlush

end Scheduler

end MetricAggregation
