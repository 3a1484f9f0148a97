import Mathlib
import MetricAggregation.Proofs.Engine.Attribution
import MetricAggregation.Proofs.Engine.Isolation
import MetricAggregation.Proofs.ExactNumber
import MetricAggregation.Proofs.Timer
import MetricAggregation.Proofs.TimerHistory

/-!
Which interval the rate of a timer describes. A flush passes over a timer that has received nothing, and
the timer keeps the time of its last report; so after idle intervals its rate is taken over all of them.
-/

namespace MetricAggregation

open TimerEvent

section Follows

variable {α : Type} [ExactNumber α]

def recordedIn (durations : List α) : Nat := durations.countP fun duration => 0 ≤ duration

/-- A number of durations per second of a time; none if no time has passed. -/
def perSecond (number : Nat) (elapsed : α) : α := if 0 < elapsed then (number : α) / elapsed else 0

theorem perSecond_eq_iff (number : Nat) {began due now : α} (before : began ≤ due) (past : due ≤ now) :
    perSecond number (now - began) = perSecond number (now - due) ↔ number = 0 ∨ began = due := by
  constructor
  · intro same
    by_contra differ
    rw [not_or] at differ
    obtain ⟨counted, apart⟩ := differ
    have positive : (0 : α) < number := by exact_mod_cast Nat.pos_of_ne_zero counted
    have earlier : began < due := lt_of_le_of_ne before apart
    have elapsed : 0 < now - began := sub_pos.mpr (earlier.trans_le past)
    rw [perSecond, if_pos elapsed] at same
    by_cases passed : 0 < now - due
    · rw [perSecond, if_pos passed] at same
      have shorter : now - due < now - began := sub_lt_sub_left earlier now
      exact (div_lt_div_of_pos_left positive passed shorter).ne same
    · rw [perSecond, if_neg passed] at same
      exact (div_pos positive elapsed).ne' same
  · rintro (rfl | rfl)
    · simp [perSecond]
    · rfl

/-- A timer that is reset by flushes, or its absence, is as a history leaves it. -/
def Follows (history : List (TimerEvent α)) : Option (Timer α) → Prop
  | none => created? history = none
  | some timer => timer.policy = .resetOnFlush ∧ timer.count = (sinceFlush history).length ∧
      timer.recorded = recordedIn (sinceFlush history) ∧ rateStart? history = some timer.lastFlush

theorem Follows.duration {history : List (TimerEvent α)} {old : Option (Timer α)}
    (follows : Follows history old) (value now : α) (draws : Nat → Draw α) :
    Follows (.duration value now :: history)
      (some ((old.getD (.new .resetOnFlush now draws)).update value now)) := by
  have counted (durations : List α) :
      recordedIn (value :: durations) = recordedIn durations + if 0 ≤ value then 1 else 0 := by
    simp [recordedIn, List.countP_cons]
  cases old with
  | none =>
      have absent : created? history = none := follows
      have quiet : sinceFlush history = [] := sinceFlush_nil_of_created absent
      refine ⟨?_, ?_, ?_, ?_⟩
      · rw [Option.getD_none, Timer.policy_update]
        rfl
      · rw [Option.getD_none, Timer.count_update, sinceFlush, quiet]
        rfl
      · rw [Option.getD_none, Timer.recorded_update, sinceFlush, quiet, counted]
        rfl
      · rw [Option.getD_none, Timer.lastFlush_update, rateStart?, lastReport?,
          lastReport_none_of_created absent, created?, absent]
        rfl
  | some timer =>
      obtain ⟨policy, count, recorded, lastFlush⟩ := follows
      refine ⟨?_, ?_, ?_, ?_⟩
      · rw [Option.getD_some, Timer.policy_update, policy]
      · rw [Option.getD_some, Timer.count_update, sinceFlush, List.length_cons, count]
      · rw [Option.getD_some, Timer.recorded_update, sinceFlush, counted, recorded]
      · rw [Option.getD_some, Timer.lastFlush_update, rateStart_duration lastFlush]

theorem Follows.flush {history : List (TimerEvent α)} {old : Option (Timer α)}
    (follows : Follows history old) {now : α} {timestamp : Nat} (whole : now = timestamp) :
    Follows (.flush now :: history)
      (old.map fun timer => if timer.isIdle then timer else timer.flushed timestamp now) := by
  cases old with
  | none => exact follows
  | some timer =>
      obtain ⟨policy, count, recorded, lastFlush⟩ := follows
      rw [Option.map_some]
      by_cases idle : timer.isIdle
      · have nothing : timer.count = 0 := (Timer.isIdle_iff.mp idle).2
        have quiet : sinceFlush history = [] := by
          rw [← List.length_eq_zero_iff, ← count, nothing]
        rw [if_pos idle]
        refine ⟨policy, nothing, ?_, ?_⟩
        · rw [recorded, quiet]
          rfl
        · simpa [rateStart?, lastReport?, created?, quiet] using lastFlush
      · have busy : (sinceFlush history).isEmpty = false := by
          have something : timer.count ≠ 0 := fun nothing => idle (Timer.isIdle_iff.mpr ⟨policy, nothing⟩)
          rw [count] at something
          simpa using something
        rw [if_neg idle]
        refine ⟨policy, rfl, rfl, ?_⟩
        simp [rateStart?, lastReport?, busy, Timer.flushed, whole]

end Follows

/-- The clock shows whole seconds, from a reading on, and is never set back. -/
def WholeSeconds {α : Type} [NatCast α] : Nat → List (Step α) → Prop
  | _, [] => True
  | reading, .setWallClock seconds :: rest =>
    ∃ next : Nat, seconds = next ∧ reading ≤ next ∧ WholeSeconds next rest
  | reading, _ :: rest => WholeSeconds reading rest

namespace Engine

variable {α φ μ : Type} [ExactNumber α] [MetricFactory φ] [MetricPlugin φ μ α]
variable {key : String} {reading : Nat} {history : List (TimerEvent α)} {engine : Engine α φ μ}

def durationAt (key : String) (moment : α) : Update α → Option (TimerEvent α)
  | .duration name value => if name = key then some (.duration value moment) else none
  | _ => none

def timerEventsOf (engine : Engine α φ μ) (key : String) (step : Step α) : List (TimerEvent α) :=
  (engine.accepted step).filterMap (durationAt key engine.wallClock) ++
    (engine.step step).1.toList.map fun _ => .flush engine.wallClock

/-- The events of a run for the timer of a key, in their order. -/
def timerEvents (engine : Engine α φ μ) (key : String) : List (Step α) → List (TimerEvent α)
  | [] => []
  | first :: rest => engine.timerEventsOf key first ++ (engine.step first).2.timerEvents key rest

/-- The timer of a key is as a history leaves it, all of which is past. -/
structure Tracks (key : String) (reading : Nat) (history : List (TimerEvent α))
    (engine : Engine α φ μ) : Prop where
  policy : engine.settings.policy = .resetOnFlush
  clock : engine.wallClock = reading
  ordered : Ordered history
  past : ∀ event ∈ history, event.moment ≤ engine.wallClock
  timer : Follows history (engine.timers.find? key)

omit [MetricFactory φ] [MetricPlugin φ μ α] in
theorem Tracks.cons (tracks : Tracks key reading history engine) {event : TimerEvent α}
    (now : event.moment = engine.wallClock) {after : Engine α φ μ}
    (settings : after.settings = engine.settings) (clock : after.wallClock = engine.wallClock)
    (timer : Follows (event :: history) (after.timers.find? key)) :
    Tracks key reading (event :: history) after where
  policy := by rw [settings, tracks.policy]
  clock := by rw [clock, tracks.clock]
  ordered := by
    apply List.pairwise_cons.mpr ⟨?_, tracks.ordered⟩
    intro earlier member
    rw [now]
    exact tracks.past earlier member
  past := by
    rw [clock]
    intro earlier member
    rcases List.mem_cons.mp member with rfl | before
    · exact now.le
    · exact tracks.past earlier before
  timer := timer

omit [MetricFactory φ] [MetricPlugin φ μ α] in
theorem Tracks.of_agree (tracks : Tracks key reading history engine) {after : Engine α φ μ}
    (agree : Agree .timer key after engine) : Tracks key reading history after where
  policy := by rw [agree.settings, tracks.policy]
  clock := by rw [agree.wallClock, tracks.clock]
  ordered := tracks.ordered
  past := by
    rw [agree.wallClock]
    exact tracks.past
  timer := by
    have found : after.timers.find? key = engine.timers.find? key := agree.held
    rw [found]
    exact tracks.timer

omit [MetricFactory φ] [MetricPlugin φ μ α] in
theorem Tracks.duration (tracks : Tracks key reading history engine) (value : α) :
    Tracks key reading (.duration value engine.wallClock :: history) (engine.updateTimer key value) := by
  refine tracks.cons rfl rfl rfl ?_
  rw [updateTimer, Table.find?_upsert, if_pos rfl, newTimer, tracks.policy]
  exact tracks.timer.duration value engine.wallClock (engine.chance.draws key)

theorem Tracks.flush (tracks : Tracks key reading history engine) (interval : Duration) (percent : Nat) :
    Tracks key reading (.flush engine.wallClock :: history) (engine.flush interval percent).2 := by
  have whole : engine.wallClock = (Number.floorNat engine.wallClock : α) := by
    rw [tracks.clock, ExactNumber.floorNat_natCast]
  have flushed := tracks.timer.flush whole
  rw [← Table.find?_map] at flushed
  exact tracks.cons rfl rfl rfl flushed

theorem Tracks.absorbs {updates : List (Update α)} {after : Engine α φ μ}
    (absorbed : engine.Absorbs updates after) :
    ∀ {history : List (TimerEvent α)}, Tracks key reading history engine →
      Tracks key reading ((updates.filterMap (durationAt key engine.wallClock)).reverse ++ history)
        after := by
  induction absorbed with
  | refl => exact fun tracks => tracks
  | @unseen before middle after updates same rest ih =>
      intro history tracks
      have agree : Agree .timer key middle before := .of_bare same
      rw [← agree.wallClock]
      exact ih (tracks.of_agree agree)
  | @take before middle after update updates takes rest ih =>
      intro history tracks
      have clock : middle.wallClock = before.wallClock := by cases takes <;> rfl
      rw [clock] at ih
      by_cases own : update.target = (.timer, key)
      · cases takes with
        | duration name value =>
            cases own
            have later := ih (tracks.duration value)
            simpa [durationAt] using later
        | count | gauge | events | further => cases own
      · have other : durationAt key before.wallClock update = none := by
          cases update with
          | duration name value =>
              apply if_neg
              rintro rfl
              exact own rfl
          | count | gauge | events | further => rfl
        rw [List.filterMap_cons_none other]
        exact ih (tracks.of_agree (agree_of_takes_other takes own))

omit [MetricFactory φ] [MetricPlugin φ μ α] in
theorem Tracks.setWallClock (tracks : Tracks key reading history engine) {next : Nat}
    (later : reading ≤ next) :
    Tracks key next history ({ engine with wallClock := (next : α) } : Engine α φ μ) where
  policy := tracks.policy
  clock := rfl
  ordered := tracks.ordered
  past := by
    intro event member
    refine (tracks.past event member).trans ?_
    rw [tracks.clock]
    exact Nat.cast_le.mpr later
  timer := tracks.timer

theorem Tracks.step (tracks : Tracks key reading history engine) {first : Step α} {rest : List (Step α)}
    (whole : WholeSeconds reading (first :: rest)) :
    ∃ next, WholeSeconds next rest ∧
      Tracks key next ((engine.timerEventsOf key first).reverse ++ history) (engine.step first).2 := by
  by_cases clock : ∃ seconds, first = .setWallClock seconds
  · obtain ⟨seconds, rfl⟩ := clock
    obtain ⟨next, rfl, later, others⟩ := whole
    exact ⟨next, others, tracks.setWallClock later⟩
  · have others : WholeSeconds reading rest := by
      cases first with
      | setWallClock seconds => exact absurd ⟨seconds, rfl⟩ clock
      | message | packet | increment | timing | tick | flush | setStopwatch => exact whole
    refine ⟨reading, others, ?_⟩
    rcases engine.step_cases first with
      ⟨silent, absorbed⟩ | rfl | ⟨interval, percent, rfl⟩ | ⟨seconds, rfl⟩
    · rw [timerEventsOf, silent]
      simpa using Tracks.absorbs absorbed tracks
    · have agree : Agree .timer key engine.tickMeters engine := ⟨rfl, rfl, rfl, rfl, rfl⟩
      exact tracks.of_agree agree
    · exact tracks.flush interval percent
    · exact absurd ⟨seconds, rfl⟩ clock

theorem Tracks.run : ∀ (steps : List (Step α)) {engine : Engine α φ μ} {reading : Nat}
    {history : List (TimerEvent α)}, Tracks key reading history engine → WholeSeconds reading steps →
      ∃ last, Tracks key last ((engine.timerEvents key steps).reverse ++ history) (engine.run steps).2 := by
  intro steps
  induction steps with
  | nil => exact fun tracks _ => ⟨_, tracks⟩
  | cons first rest ih =>
      intro engine reading history tracks whole
      obtain ⟨next, others, stepped⟩ := tracks.step whole
      obtain ⟨last, ended⟩ := ih stepped others
      refine ⟨last, ?_⟩
      rw [timerEvents, List.reverse_append, List.append_assoc]
      exact ended

theorem tracks_run_new (settings : Settings) (chance : Chance α) (plugins : Registry φ) {reading : Nat}
    {steps : List (Step α)} (whole : WholeSeconds reading steps) (key : String) :
    let start : Engine α φ μ := .new { settings with policy := .resetOnFlush } chance plugins reading
    ∃ last, Tracks key last (start.timerEvents key steps).reverse (start.run steps).2 := by
  intro start
  have fresh : Tracks key reading [] start := ⟨rfl, rfl, .nil, nofun, rfl⟩
  obtain ⟨last, tracks⟩ := fresh.run steps whole
  rw [List.append_nil] at tracks
  exact ⟨last, tracks⟩

/-- A timer that has received a duration since the last flush reports its rate, counted from its last
report or its creation. -/
theorem Tracks.reported (tracks : Tracks key reading history engine) (busy : sinceFlush history ≠ [])
    (interval : Duration) (percent : Nat) :
    ∃ began, rateStart? history = some began ∧
      reportedOf ⟨.timer, key, "rate"⟩ (engine.attributedFlush interval percent) =
        [Number.roundToMicro (perSecond (recordedIn (sinceFlush history)) (engine.wallClock - began))] := by
  have follows := tracks.timer
  cases found : engine.timers.find? key with
  | none =>
      rw [found] at follows
      exact absurd (sinceFlush_nil_of_created follows) busy
  | some timer =>
      rw [found] at follows
      obtain ⟨policy, count, recorded, lastFlush⟩ := follows
      have reports : timer.isIdle = false := by
        rw [Bool.eq_false_iff]
        intro idle
        rw [(Timer.isIdle_iff.mp idle).2] at count
        exact busy (List.length_eq_zero_iff.mp count.symm)
      refine ⟨timer.lastFlush, lastFlush, ?_⟩
      rw [reportedOf_timer, found, tracks.clock, ExactNumber.floorNat_natCast]
      simp [reports, Option.filter, Timer.filter_statistics_rate, Timer.rate, perSecond, recorded]

theorem Tracks.silent (tracks : Tracks key reading history engine) (quiet : sinceFlush history = [])
    (interval : Duration) (percent : Nat) (statistic : String) :
    reportedOf ⟨.timer, key, statistic⟩ (engine.attributedFlush interval percent) = [] := by
  have follows := tracks.timer
  rw [reportedOf_timer]
  cases found : engine.timers.find? key with
  | none => rfl
  | some timer =>
      rw [found] at follows
      obtain ⟨policy, count, _, _⟩ := follows
      have idle : timer.isIdle := Timer.isIdle_iff.mpr ⟨policy, by rw [count, quiet]; rfl⟩
      simp [idle, Option.filter]

/-- In every run with whole seconds, a timer that is reset by flushes reports its rate exactly if a duration
came since the last flush. The rate counts the durations since then, but over the time since the timer's
last report or its creation. So it is the rate of the interval that just ended exactly if it counts no
duration, or no time lies between that report and the last flush. -/
theorem rate_eq_interval_rate_iff (settings : Settings) (chance : Chance α) (plugins : Registry φ)
    (reading : Nat) (steps : List (Step α)) (whole : WholeSeconds reading steps) (key : String)
    (interval : Duration) (percent : Nat) :
    let start : Engine α φ μ :=
      .new { settings with policy := .resetOnFlush } chance plugins reading
    let engine := (start.run steps).2
    let history := (start.timerEvents key steps).reverse
    let number := recordedIn (sinceFlush history)
    let points := engine.attributedFlush interval percent
    let reported := reportedOf ⟨.timer, key, "rate"⟩ points
    points.map Attributed.point = (engine.flush interval percent).1 ∧
      (sinceFlush history = [] → reported = []) ∧
      (sinceFlush history ≠ [] → ∃ began due,
        rateStart? history = some began ∧ intervalStart? history = some due ∧
        began ≤ due ∧ due ≤ engine.wallClock ∧
        reported = [Number.roundToMicro (perSecond number (engine.wallClock - began))] ∧
        (perSecond number (engine.wallClock - began) = perSecond number (engine.wallClock - due) ↔
          number = 0 ∨ began = due)) := by
  intro start engine history number points reported
  obtain ⟨last, tracks⟩ := tracks_run_new (μ := μ) settings chance plugins whole key
  refine ⟨engine.map_point_attributedFlush interval percent, ?_, ?_⟩
  · intro quiet
    exact tracks.silent quiet interval percent "rate"
  · intro busy
    obtain ⟨began, counted, rate⟩ := tracks.reported busy interval percent
    obtain ⟨due, ended⟩ := intervalStart_of_sinceFlush busy
    have before := rateStart_le_intervalStart tracks.ordered counted ended
    have past := intervalStart_le tracks.past ended
    exact ⟨began, due, counted, ended, before, past, rate, perSecond_eq_iff number before past⟩

section IdleFlush

omit [MetricFactory φ] [MetricPlugin φ μ α] in
theorem parseValue_of_numeral {text : String} {numeral : Numeral}
    (read : Numeral.parse? (Text.trim text.toList) = some numeral) :
    (parseValue text : Except MessageError α) = .ok numeral.value := by
  simp [parseValue, Number.parse?, read, ExactNumber.isFinite_eq]

theorem taken?_duration (engine : Engine α φ μ) {bytes : List UInt8} {text : String} {numeral : Numeral}
    (read : readMessage bytes = .ok ⟨key, text, "ms", none⟩)
    (number : Numeral.parse? (Text.trim text.toList) = some numeral) :
    engine.taken? bytes = some (.duration key numeral.value) := by
  refine taken?_eq_some_iff.mpr ⟨_, _, read, ?_, .duration key _⟩
  exact Except.map_eq_ok_iff.mpr ⟨_, parseValue_of_numeral number, rfl⟩

/-- A timer that reports, is passed over by a flush, and reports again, ten seconds apart each. -/
def idleFlush : List (Step ℝ) :=
  [.message "glork:320|ms".toUTF8.toList, .setWallClock 1010, .flush (.ofSeconds 10) 90,
    .setWallClock 1020, .flush (.ofSeconds 10) 90, .message "glork:5|ms".toUTF8.toList,
    .setWallClock 1030]

theorem wholeSeconds_idleFlush : WholeSeconds 1000 idleFlush :=
  ⟨1010, by norm_num, by norm_num, 1020, by norm_num, by norm_num, 1030, by norm_num, by norm_num, trivial⟩

theorem taken?_first (engine : Engine ℝ Empty Empty) :
    engine.taken? "glork:320|ms".toUTF8.toList = some (.duration "glork" 320) := by
  have read : readMessage "glork:320|ms".toUTF8.toList = .ok ⟨"glork", "320", "ms", none⟩ := by cbv
  have number : Numeral.parse? (Text.trim "320".toList) = some ⟨false, 320, 0⟩ := by rfl
  have value : (Numeral.value ⟨false, 320, 0⟩ : ℝ) = 320 := by
    simp [Numeral.value, ExactNumber.ofDecimal_eq]
  rw [engine.taken?_duration read number, value]

theorem taken?_second (engine : Engine ℝ Empty Empty) :
    engine.taken? "glork:5|ms".toUTF8.toList = some (.duration "glork" 5) := by
  have read : readMessage "glork:5|ms".toUTF8.toList = .ok ⟨"glork", "5", "ms", none⟩ := by cbv
  have number : Numeral.parse? (Text.trim "5".toList) = some ⟨false, 5, 0⟩ := by rfl
  have value : (Numeral.value ⟨false, 5, 0⟩ : ℝ) = 5 := by
    simp [Numeral.value, ExactNumber.ofDecimal_eq]
  rw [engine.taken?_duration read number, value]

theorem timerEvents_idleFlush (start : Engine ℝ Empty Empty) (clock : start.wallClock = 1000) :
    start.timerEvents "glork" idleFlush =
      [.duration 320 1000, .flush 1010, .flush 1020, .duration 5 1020] := by
  simp only [idleFlush, timerEvents, timerEventsOf, accepted, taken?_first, taken?_second, step,
    wallClock_process, clock]
  rfl

theorem rate_eq_interval_rate_iff_idleFlush :
    let start : Engine ℝ Empty Empty := .new Settings.default (.ofSeed 0) .empty (1000 : Nat)
    let engine := (start.run idleFlush).2
    let history := (start.timerEvents "glork" idleFlush).reverse
    let number := recordedIn (sinceFlush history)
    WholeSeconds 1000 idleFlush ∧ sinceFlush history = [5] ∧ ∃ began due,
      rateStart? history = some began ∧ intervalStart? history = some due ∧
      reportedOf ⟨.timer, "glork", "rate"⟩ (engine.attributedFlush (.ofSeconds 10) 90) =
        [Number.roundToMicro (perSecond number (engine.wallClock - began))] ∧
      (perSecond number (engine.wallClock - began) = perSecond number (engine.wallClock - due) ↔
        number = 0 ∨ began = due) := by
  intro start engine history number
  have events := timerEvents_idleFlush start (Nat.cast_ofNat)
  have since : sinceFlush history = [5] := by simp [history, events, sinceFlush]
  obtain ⟨_, _, reports⟩ := rate_eq_interval_rate_iff (φ := Empty) (μ := Empty) Settings.default
    (.ofSeed 0) .empty 1000 idleFlush wholeSeconds_idleFlush "glork" (.ofSeconds 10) 90
  have busy : sinceFlush history ≠ [] := by simp [since]
  obtain ⟨began, due, counted, ended, _, _, rate, agrees⟩ := reports busy
  exact ⟨wholeSeconds_idleFlush, since, began, due, counted, ended, rate, agrees⟩

/-- One duration came in the ten seconds since the last flush, but the rate that is reported is that of one
duration in twenty seconds. -/
theorem rate_of_idleFlush :
    let start : Engine ℝ Empty Empty := .new Settings.default (.ofSeed 0) .empty (1000 : Nat)
    let engine := (start.run idleFlush).2
    let history := (start.timerEvents "glork" idleFlush).reverse
    let reported := reportedOf ⟨.timer, "glork", "rate"⟩ (engine.attributedFlush (.ofSeconds 10) 90)
    sinceFlush history = [5] ∧ intervalStart? history = some 1020 ∧ engine.wallClock = 1030 ∧
      reported = [1 / 20] ∧
      reported ≠ [Number.roundToMicro
        (perSecond (recordedIn (sinceFlush history)) (engine.wallClock - 1020))] := by
  intro start engine history reported
  have events := timerEvents_idleFlush start (Nat.cast_ofNat)
  have since : sinceFlush history = [5] := by simp [history, events, sinceFlush]
  have number : recordedIn (sinceFlush history) = 1 := by simp [since, recordedIn]
  have due : intervalStart? history = some 1020 := by
    norm_num [history, events, intervalStart?, created?, previousFlush?]
  have clock : engine.wallClock = 1030 := rfl
  obtain ⟨last, tracks⟩ : ∃ last, Tracks "glork" last history engine :=
    tracks_run_new Settings.default (.ofSeed 0) .empty wholeSeconds_idleFlush "glork"
  obtain ⟨began, counted, rate⟩ := tracks.reported (by simp [since]) (.ofSeconds 10) 90
  have first : began = 1010 := by
    simpa [history, events, rateStart?, lastReport?, sinceFlush] using counted.symm
  have slow : perSecond 1 (1030 - 1010 : ℝ) = ((50000 : Int) : ℝ) / 10 ^ 6 := by norm_num [perSecond]
  have fast : perSecond 1 (1030 - 1020 : ℝ) = ((100000 : Int) : ℝ) / 10 ^ 6 := by norm_num [perSecond]
  have value : reported = [1 / 20] := by
    rw [number, clock, first, slow, ExactNumber.roundToMicro_millionths] at rate
    refine rate.trans ?_
    norm_num
  refine ⟨since, due, clock, value, ?_⟩
  rw [value, number, clock, fast, ExactNumber.roundToMicro_millionths]
  norm_num

end IdleFlush

end Engine

end MetricAggregation
