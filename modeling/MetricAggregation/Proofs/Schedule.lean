import MetricAggregation.Proofs.Deliveries
import MetricAggregation.Proofs.Engine.Attribution

/-!
When a scheduler ticks the meters of its engine and when it flushes it. Each of the two is done at every poll that comes
an interval or more after the last poll at which it was done, once, and the other one has no part in that.
-/

namespace MetricAggregation

namespace MovingAverage

variable {α : Type} [Number α]

/-- The rate of an average with the events that it has held back until now. -/
def caughtUp (average : MovingAverage α) : α :=
  let latest := average.uncounted / average.interval
  if average.started then average.rate + average.alpha * (latest - average.rate) else latest

end MovingAverage

/-- The averages of a meter, under the names that they are reported by. -/
def Meter.loads {α : Type} (meter : Meter α) : List (String × MovingAverage α) :=
  [("1min_rate", meter.oneMinute), ("5min_rate", meter.fiveMinutes), ("15min_rate", meter.fifteenMinutes)]

def Move.instant? {α : Type} : Move α → Option Nat
  | .poll now => some now
  | .give _ => none
  | .flush => none

namespace Engine

variable {α φ μ : Type} [Number α] [MetricFactory φ] [MetricPlugin φ μ α]

/-- Right after a tick, the averages of a meter are reported with all its events. -/
theorem reportedOf_load_tickMeters {engine : Engine α φ μ} {key : String} {meter : Meter α}
    (found : engine.meters.find? key = some meter) {name : String} {load : MovingAverage α}
    (member : (name, load) ∈ meter.loads) (interval : Duration) (percent : Nat) :
    reportedOf ⟨.meter, key, name⟩ (engine.tickMeters.attributedFlush interval percent) =
      [Number.roundToMicro load.caughtUp] := by
  have ticked : engine.tickMeters.meters.find? key = some meter.tick := by
    rw [tickMeters, Table.find?_map, found, Option.map_some]
  rw [reportedOf_meter, ticked]
  simp only [Meter.loads, List.mem_cons, List.not_mem_nil, or_false, Prod.mk.injEq] at member
  rcases member with ⟨rfl, rfl⟩ | ⟨rfl, rfl⟩ | ⟨rfl, rfl⟩
  · rfl
  · rfl
  · rfl

end Engine

/-- A poll, with what was done at it, the engine before and after it, and what the engine reported. -/
structure Visit (α φ μ : Type) where
  now : Nat
  ticked : Bool
  flushed : Bool
  before : Engine α φ μ
  after : Engine α φ μ
  reports : List (List (Datapoint α))

namespace Visit

variable {α φ μ : Type}

/-- The steps that an engine takes at a visit. The meters are ticked before the flush. -/
def steps (visit : Visit α φ μ) (interval : Duration) (percent : Nat) : List (Step α) :=
  (if visit.ticked then [.tick] else []) ++ if visit.flushed then [.flush interval percent] else []

/-- Visits, each behind the instant of the last one before it at which something was done, or that of the start. -/
def afterLast (done : Visit α φ μ → Bool) : Nat → List (Visit α φ μ) → List (Nat × Visit α φ μ)
  | _, [] => []
  | last, visit :: rest => (last, visit) :: afterLast done (if done visit then visit.now else last) rest

/-- Something is done at every visit that comes an interval or more after the last one at which it was done, and at no
other visit. -/
def Punctual (done : Visit α φ μ → Bool) (interval start : Nat) (visits : List (Visit α φ μ)) : Prop :=
  ∀ entry ∈ afterLast done start visits, done entry.2 ↔ entry.1 + interval ≤ entry.2.now

variable {done : Visit α φ μ → Bool} {interval : Nat}

theorem punctual_cons_iff {start : Nat} {visit : Visit α φ μ} {rest : List (Visit α φ μ)} :
    Punctual done interval start (visit :: rest) ↔
      (done visit ↔ start + interval ≤ visit.now) ∧
        Punctual done interval (if done visit then visit.now else start) rest :=
  List.forall_mem_cons

theorem mem_of_mem_afterLast {visits : List (Visit α φ μ)} : ∀ {start : Nat} {entry : Nat × Visit α φ μ},
    entry ∈ afterLast done start visits → entry.2 ∈ visits := by
  induction visits with
  | nil => exact nofun
  | cons visit rest ih =>
      intro start entry member
      rcases List.mem_cons.mp member with rfl | later
      · exact List.mem_cons_self
      · exact List.mem_cons_of_mem _ (ih later)

/-- The instants of the visits decide at which of them something is done at an interval. -/
theorem Punctual.map_eq {visits : List (Visit α φ μ)} : ∀ {start : Nat} {others : List (Visit α φ μ)},
    Punctual done interval start visits → Punctual done interval start others →
      visits.map now = others.map now → visits.map done = others.map done := by
  induction visits with
  | nil =>
      intro start others _ _ same
      rw [List.map_nil, List.map_eq_nil_iff.mp same.symm, List.map_nil]
  | cons visit rest ih =>
      intro start others punctual other same
      obtain ⟨first, others, rfl, instant, instants⟩ := List.map_eq_cons_iff.mp same.symm
      obtain ⟨here, later⟩ := punctual_cons_iff.mp punctual
      obtain ⟨there, latter⟩ := punctual_cons_iff.mp other
      have equal : done first = done visit := by
        rw [Bool.eq_iff_iff, here, there, instant]
      rw [equal, instant] at latter
      rw [List.map_cons, List.map_cons, equal, ih later latter instants.symm]

section Engine

variable [Number α] [MetricFactory φ] [MetricPlugin φ μ α]

/-- The engine of a visit as a flush finds it. -/
def ready (visit : Visit α φ μ) : Engine α φ μ := if visit.ticked then visit.before.tickMeters else visit.before

theorem reports_of_run {visit : Visit α φ μ} {interval : Duration} {percent : Nat}
    (runs : visit.before.run (visit.steps interval percent) = (visit.reports, visit.after)) (flushed : visit.flushed) :
    visit.reports = [(visit.ready.attributedFlush interval percent).map Attributed.point] := by
  have reported : visit.reports = (visit.before.run (visit.steps interval percent)).1 := by rw [runs]
  rw [reported, steps, if_pos flushed, ready, Engine.map_point_attributedFlush]
  split
  · rfl
  · rfl

end Engine

end Visit

namespace Scheduler

variable {α φ μ σ : Type} [Number α] [MetricFactory φ] [MetricPlugin φ μ α]

def visit (scheduler : Scheduler α φ μ) (send : σ → ByteArray → Bool × σ) (sink : σ) (now : Nat) : Visit α φ μ where
  now := now
  ticked := scheduler.nextTick ≤ now
  flushed := (scheduler.poll now send sink).1.isSome
  before := scheduler.engine
  after := (scheduler.poll now send sink).2.2.engine
  reports := (scheduler.deliver send sink (.poll now)).1.toList.map Delivery.points

def visitIn (scheduler : Scheduler α φ μ) (send : σ → ByteArray → Bool × σ) (sink : σ) (move : Move α) :
    Option (Visit α φ μ) :=
  move.instant?.map (scheduler.visit send sink)

/-- The polls of a run. -/
def visits (scheduler : Scheduler α φ μ) (send : σ → ByteArray → Bool × σ) (sink : σ) :
    List (Move α) → List (Visit α φ μ)
  | [] => []
  | first :: rest =>
    let (_, next, after) := scheduler.move send sink first
    (scheduler.visitIn send sink first).toList ++ after.visits send next rest

/-- Both deadlines of a scheduler lie an interval behind the instants at which things were last done. -/
structure OnSchedule (flushInterval tickInterval : Duration) (percent lastFlush lastTick : Nat)
    (scheduler : Scheduler α φ μ) : Prop where
  flushesEvery : scheduler.flushInterval = flushInterval
  ticksEvery : scheduler.tickInterval = tickInterval
  chosen : scheduler.percent = percent
  nextFlush : scheduler.nextFlush = lastFlush + flushInterval.nanoseconds
  nextTick : scheduler.nextTick = lastTick + tickInterval.nanoseconds

variable {scheduler : Scheduler α φ μ} (send : σ → ByteArray → Bool × σ) (sink : σ) {now : Nat}

section Poll

omit [MetricFactory φ] [MetricPlugin φ μ α] in
theorem tickIfDue_eq (scheduler : Scheduler α φ μ) (now : Nat) : scheduler.tickIfDue now =
    { scheduler with
      engine := if scheduler.nextTick ≤ now then scheduler.engine.tickMeters else scheduler.engine
      nextTick :=
        if scheduler.nextTick ≤ now then now + scheduler.tickInterval.nanoseconds else scheduler.nextTick } := by
  unfold tickIfDue
  split
  · rfl
  · rfl

theorem poll_of_early (early : ¬ scheduler.nextFlush ≤ now) :
    scheduler.poll now send sink = (none, sink, scheduler.tickIfDue now) := by
  rw [poll, tickIfDue_eq]
  exact if_neg early

theorem poll_of_due (due : scheduler.nextFlush ≤ now) :
    ∃ report rest writer, scheduler.poll now send sink = (some report, rest,
      { scheduler.tickIfDue now with
        engine := ((scheduler.tickIfDue now).engine.flush scheduler.flushInterval scheduler.percent).2
        writer := writer
        nextFlush := now + scheduler.flushInterval.nanoseconds }) := by
  rw [poll, tickIfDue_eq]
  dsimp only
  rw [if_pos due, flush_eq]
  exact ⟨_, _, _, rfl⟩

theorem flushed_visit : (scheduler.visit send sink now).flushed ↔ scheduler.nextFlush ≤ now := by
  by_cases due : scheduler.nextFlush ≤ now
  · obtain ⟨report, rest, writer, polled⟩ := poll_of_due send sink due
    simp only [visit, polled, Option.isSome_some, due]
  · simp only [visit, poll_of_early send sink due, Option.isSome_none, due, Bool.false_eq_true]

theorem ticked_visit : (scheduler.visit send sink now).ticked ↔ scheduler.nextTick ≤ now := decide_eq_true_iff

theorem reports_visit : (scheduler.visit send sink now).reports =
    if scheduler.nextFlush ≤ now then
      [((scheduler.tickIfDue now).engine.flush scheduler.flushInterval scheduler.percent).1]
    else [] := by
  rw [visit, deliver_poll, tickIfDue_eq]
  dsimp only
  split
  · rw [deliver_flush]
    rfl
  · rfl

theorem after_visit : (scheduler.visit send sink now).after =
    if scheduler.nextFlush ≤ now then
      ((scheduler.tickIfDue now).engine.flush scheduler.flushInterval scheduler.percent).2
    else (scheduler.tickIfDue now).engine := by
  by_cases due : scheduler.nextFlush ≤ now
  · obtain ⟨report, rest, writer, polled⟩ := poll_of_due send sink due
    simp only [visit, polled, if_pos due]
  · simp only [visit, poll_of_early send sink due, if_neg due]

/-- What a poll does to the engine are the steps of its visit, and they report what is sent on. -/
theorem run_visit : scheduler.engine.run
      ((scheduler.visit send sink now).steps scheduler.flushInterval scheduler.percent) =
    ((scheduler.visit send sink now).reports, (scheduler.visit send sink now).after) := by
  rw [reports_visit, after_visit, Visit.steps]
  simp only [flushed_visit, ticked_visit, tickIfDue_eq]
  by_cases ticks : scheduler.nextTick ≤ now
  · by_cases flushes : scheduler.nextFlush ≤ now
    · simp only [if_pos ticks, if_pos flushes]
      rfl
    · simp only [if_pos ticks, if_neg flushes]
      rfl
  · by_cases flushes : scheduler.nextFlush ≤ now
    · simp only [if_neg ticks, if_pos flushes]
      rfl
    · simp only [if_neg ticks, if_neg flushes]
      rfl

end Poll

section Run

variable {flushInterval tickInterval : Duration} {percent lastFlush lastTick : Nat}

omit [MetricFactory φ] [MetricPlugin φ μ α] in
theorem OnSchedule.tickIfDue (kept : scheduler.OnSchedule flushInterval tickInterval percent lastFlush lastTick)
    (now : Nat) :
    (scheduler.tickIfDue now).OnSchedule flushInterval tickInterval percent lastFlush
      (if scheduler.nextTick ≤ now then now else lastTick) := by
  rw [tickIfDue_eq]
  refine ⟨kept.flushesEvery, kept.ticksEvery, kept.chosen, kept.nextFlush, ?_⟩
  dsimp only
  split
  · rw [kept.ticksEvery]
  · exact kept.nextTick

theorem OnSchedule.poll (kept : scheduler.OnSchedule flushInterval tickInterval percent lastFlush lastTick) :
    let visit := scheduler.visit send sink now
    (scheduler.poll now send sink).2.2.OnSchedule flushInterval tickInterval percent
      (if visit.flushed then now else lastFlush) (if visit.ticked then now else lastTick) := by
  simp only [flushed_visit, ticked_visit]
  have ticked := kept.tickIfDue now
  by_cases due : scheduler.nextFlush ≤ now
  · obtain ⟨report, rest, writer, polled⟩ := poll_of_due send sink due
    rw [polled, if_pos due]
    exact ⟨ticked.flushesEvery, ticked.ticksEvery, ticked.chosen,
      congrArg (now + Duration.nanoseconds ·) kept.flushesEvery, ticked.nextTick⟩
  · rw [poll_of_early send sink due, if_neg due]
    exact ticked

theorem OnSchedule.flush (kept : scheduler.OnSchedule flushInterval tickInterval percent lastFlush lastTick) :
    (scheduler.flush send sink).2.2.OnSchedule flushInterval tickInterval percent lastFlush lastTick := by
  rw [flush_eq]
  exact ⟨kept.flushesEvery, kept.ticksEvery, kept.chosen, kept.nextFlush, kept.nextTick⟩

omit [Number α] [MetricFactory φ] [MetricPlugin φ μ α] in
theorem OnSchedule.give (kept : scheduler.OnSchedule flushInterval tickInterval percent lastFlush lastTick)
    (engine : Engine α φ μ) :
    { scheduler with engine := engine }.OnSchedule flushInterval tickInterval percent lastFlush lastTick :=
  ⟨kept.flushesEvery, kept.ticksEvery, kept.chosen, kept.nextFlush, kept.nextTick⟩

omit [Number α] [MetricFactory φ] [MetricPlugin φ μ α] in
theorem onSchedule_new (engine : Engine α φ μ) (writer : PayloadWriter) (flushInterval tickInterval : Duration)
    (percent start : Nat) :
    (Scheduler.new engine writer flushInterval tickInterval percent start).OnSchedule flushInterval tickInterval
      percent start start :=
  ⟨rfl, rfl, rfl, rfl, rfl⟩

theorem punctual_visits (moves : List (Move α)) :
    ∀ {scheduler : Scheduler α φ μ} {lastFlush lastTick : Nat} (sink : σ),
    scheduler.OnSchedule flushInterval tickInterval percent lastFlush lastTick →
      Visit.Punctual Visit.ticked tickInterval.nanoseconds lastTick (scheduler.visits send sink moves) ∧
        Visit.Punctual Visit.flushed flushInterval.nanoseconds lastFlush (scheduler.visits send sink moves) := by
  induction moves with
  | nil => exact fun _ _ => ⟨nofun, nofun⟩
  | cons move rest ih =>
      intro scheduler lastFlush lastTick sink kept
      cases move with
      | give step => exact ih sink (kept.give _)
      | flush => exact ih _ (kept.flush send sink)
      | poll now =>
          obtain ⟨ticks, flushes⟩ := ih (scheduler.poll now send sink).2.1 (kept.poll send sink)
          constructor
          · refine Visit.punctual_cons_iff.mpr ⟨?_, ticks⟩
            rw [ticked_visit, kept.nextTick]
            rfl
          · refine Visit.punctual_cons_iff.mpr ⟨?_, flushes⟩
            rw [flushed_visit, kept.nextFlush]
            rfl

theorem run_of_mem_visits (moves : List (Move α)) :
    ∀ {scheduler : Scheduler α φ μ} {lastFlush lastTick : Nat} (sink : σ),
    scheduler.OnSchedule flushInterval tickInterval percent lastFlush lastTick →
      ∀ visit ∈ scheduler.visits send sink moves,
        visit.before.run (visit.steps flushInterval percent) = (visit.reports, visit.after) := by
  induction moves with
  | nil => exact fun _ _ => nofun
  | cons move rest ih =>
      intro scheduler lastFlush lastTick sink kept
      cases move with
      | give step => exact ih sink (kept.give _)
      | flush => exact ih _ (kept.flush send sink)
      | poll now =>
          refine List.forall_mem_cons.mpr ⟨?_, ih _ (kept.poll send sink)⟩
          rw [← kept.flushesEvery, ← kept.chosen]
          exact run_visit send sink

theorem map_now_visits (moves : List (Move α)) : ∀ (scheduler : Scheduler α φ μ) (sink : σ),
    (scheduler.visits send sink moves).map Visit.now = moves.filterMap Move.instant? := by
  induction moves with
  | nil => exact fun _ _ => rfl
  | cons move rest ih =>
      intro scheduler sink
      cases move with
      | give step => exact ih _ _
      | flush => exact ih _ _
      | poll now => exact congrArg (now :: ·) (ih _ _)

/-- At every poll of a run, the meters are ticked exactly if the tick interval or more has passed since the last poll at
which they were, or the start, and the engine is flushed exactly if the flush interval or more has passed since the last
poll at which it was, or the start. However late the poll comes, each is done once, the tick first, so the flush
reports the averages with all events until then. The instants and the one interval decide at which polls either is
done: another engine, other moves between the polls and another interval for the other one make no difference. -/
theorem visits_punctual (engine : Engine α φ μ) (writer : PayloadWriter) (flushInterval tickInterval : Duration)
    (percent start : Nat) (moves : List (Move α)) :
    let visits := (Scheduler.new engine writer flushInterval tickInterval percent start).visits send sink moves
    visits.map Visit.now = moves.filterMap Move.instant? ∧
      Visit.Punctual Visit.ticked tickInterval.nanoseconds start visits ∧
      Visit.Punctual Visit.flushed flushInterval.nanoseconds start visits ∧
      (∀ visit ∈ visits,
        visit.before.run (visit.steps flushInterval percent) = (visit.reports, visit.after)) ∧
      (∀ visit ∈ visits, visit.ticked → visit.flushed →
        let points := visit.before.tickMeters.attributedFlush flushInterval percent
        visit.reports = [points.map Attributed.point] ∧
          ∀ key meter, visit.before.meters.find? key = some meter → ∀ name load, (name, load) ∈ meter.loads →
            reportedOf ⟨.meter, key, name⟩ points = [Number.roundToMicro load.caughtUp]) ∧
      ∀ (other : Engine α φ μ) (otherWriter : PayloadWriter) (otherFlush otherTick : Duration) (otherPercent : Nat)
        (otherMoves : List (Move α)) (τ : Type) (otherSend : τ → ByteArray → Bool × τ) (otherSink : τ),
        let others := (Scheduler.new other otherWriter otherFlush otherTick otherPercent start).visits otherSend
          otherSink otherMoves
        moves.filterMap Move.instant? = otherMoves.filterMap Move.instant? →
          (tickInterval = otherTick → visits.map Visit.ticked = others.map Visit.ticked) ∧
            (flushInterval = otherFlush → visits.map Visit.flushed = others.map Visit.flushed) := by
  intro visits
  have kept := onSchedule_new engine writer flushInterval tickInterval percent start
  obtain ⟨ticks, flushes⟩ := punctual_visits send moves sink kept
  have instants := map_now_visits send moves (Scheduler.new engine writer flushInterval tickInterval percent start) sink
  have runs := run_of_mem_visits send moves sink kept
  refine ⟨instants, ticks, flushes, runs, ?_, ?_⟩
  · intro visit member ticked flushed points
    refine ⟨?_, fun key meter found name load named =>
      Engine.reportedOf_load_tickMeters found named flushInterval percent⟩
    have reported := Visit.reports_of_run (runs visit member) flushed
    rwa [Visit.ready, if_pos ticked] at reported
  · intro other otherWriter otherFlush otherTick otherPercent otherMoves τ otherSend otherSink others same
    obtain ⟨otherTicks, otherFlushes⟩ := punctual_visits otherSend otherMoves otherSink
      (onSchedule_new other otherWriter otherFlush otherTick otherPercent start)
    have sameInstants : visits.map Visit.now = others.map Visit.now := by
      rw [instants, same, map_now_visits]
    refine ⟨?_, ?_⟩
    · rintro rfl
      exact ticks.map_eq otherTicks sameInstants
    · rintro rfl
      exact flushes.map_eq otherFlushes sameInstants

end Run

end Scheduler

end MetricAggregation
