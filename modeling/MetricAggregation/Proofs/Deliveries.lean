import MetricAggregation.Engine.Run
import MetricAggregation.Proofs.Lines
import MetricAggregation.Scheduler

/-!
What a scheduler sends on. Whatever becomes of the payloads on their way, every flush offers its own, and
nothing of it is left for the flushes after it.
-/

namespace MetricAggregation

section Sending

variable {σ : Type}

/-- A sink that also keeps what it is offered, each payload with whether it could be sent. -/
def recording (send : σ → ByteArray → Bool × σ) (state : σ × List (ByteArray × Bool)) (payload : ByteArray) :
    Bool × σ × List (ByteArray × Bool) :=
  let (sent, sink) := send state.1 payload
  (sent, sink, state.2 ++ [(payload, sent)])

def outcomes (send : σ → ByteArray → Bool × σ) : List ByteArray → σ → List (ByteArray × Bool)
  | [], _ => []
  | payload :: rest, sink => (payload, (send sink payload).1) :: outcomes send rest (send sink payload).2

variable (send : σ → ByteArray → Bool × σ)

theorem map_fst_outcomes (payloads : List ByteArray) : ∀ sink : σ,
    (outcomes send payloads sink).map Prod.fst = payloads := by
  induction payloads with
  | nil => exact fun _ => rfl
  | cons payload rest ih => exact fun sink => congrArg (payload :: ·) (ih (send sink payload).2)

theorem sendAll_recording (payloads : List ByteArray) : ∀ (sink : σ) (log : List (ByteArray × Bool)),
    sendAll (recording send) payloads (sink, log) =
      ((sendAll send payloads sink).1, (sendAll send payloads sink).2,
        log ++ outcomes send payloads sink) := by
  induction payloads with
  | nil => exact fun sink log => by simp [sendAll, outcomes]
  | cons payload rest ih =>
      intro sink log
      simp only [sendAll, recording, outcomes, ih, List.append_assoc, List.singleton_append]

theorem outcomes_recording (payloads : List ByteArray) : ∀ (sink : σ) (log : List (ByteArray × Bool)),
    outcomes (recording send) payloads (sink, log) = outcomes send payloads sink := by
  induction payloads with
  | nil => exact fun _ _ => rfl
  | cons payload rest ih =>
      exact fun sink log => congrArg ((payload, (send sink payload).1) :: ·) (ih _ _)

/-- Whatever becomes of a payload, those behind it are offered too, and each is counted. -/
theorem counts_sendAll (payloads : List ByteArray) : ∀ sink : σ,
    (sendAll send payloads sink).1.1 = (outcomes send payloads sink).countP (fun outcome => outcome.2) ∧
      (sendAll send payloads sink).1.2 = (outcomes send payloads sink).countP fun outcome => !outcome.2 := by
  induction payloads with
  | nil => exact fun _ => ⟨rfl, rfl⟩
  | cons payload rest ih =>
      intro sink
      obtain ⟨successes, failures⟩ := ih (send sink payload).2
      cases sent : (send sink payload).1 with
      | true => simp [sendAll, outcomes, sent, successes, failures]
      | false => simp [sendAll, outcomes, sent, successes, failures]

end Sending

/-- What happens to a scheduler: its engine takes a step, it does what is due, or it is flushed. -/
inductive Move (α : Type) where
  | give (step : Step α)
  | poll (now : Nat)
  | flush

/-- A flush with what its engine reported and what its sink was offered. -/
structure Delivery (α : Type) where
  points : List (Datapoint α)
  outcomes : List (ByteArray × Bool)
  report : FlushReport

namespace Delivery

variable {α : Type} [Number α]

def payloads (delivery : Delivery α) : List ByteArray := delivery.outcomes.map Prod.fst

def offer (delivery : Delivery α) : List (Datapoint α) × List ByteArray :=
  (delivery.points, delivery.payloads)

def lines (maxLength : Nat) (delivery : Delivery α) : List ByteArray :=
  delivery.points.filterMap (Datapoint.fitting? maxLength)

/-- A line is of one of the datapoints of a flush. -/
def Owns (maxLength : Nat) (delivery : Delivery α) (line : ByteArray) : Prop :=
  ∃ point ∈ delivery.points, point.fitting? maxLength = some line

/-- A datapoint of one flush and a datapoint of another have the same timestamp. -/
def SharesSecond (delivery other : Delivery α) : Prop :=
  ∃ point ∈ delivery.points, ∃ later ∈ other.points, point.timestamp = later.timestamp

/-- The payloads of a flush are its own lines, packed in their order, and its report tells what became of
them. -/
structure Accounts (maxLength : Nat) (delivery : Delivery α) : Prop where
  own : delivery.payloads = PayloadWriter.payloadsOf maxLength delivery.points
  packed : ∃ groups, IsPacking maxLength (delivery.lines maxLength) delivery.payloads groups
  /-- A payload has no lines but those of datapoints of this flush. -/
  owned : ∀ payload ∈ delivery.payloads, ∃ lines : List ByteArray,
    payload = joined lines ∧ ∀ line ∈ lines, delivery.Owns maxLength line
  datapoints : delivery.report.datapoints = delivery.points.length
  dropped : delivery.report.pointsDropped + (delivery.lines maxLength).length = delivery.report.datapoints
  sent : delivery.report.payloadsSent = delivery.outcomes.countP fun outcome => outcome.2
  failed : delivery.report.payloadsFailed = delivery.outcomes.countP fun outcome => !outcome.2
  all : delivery.report.payloadsSent + delivery.report.payloadsFailed = delivery.payloads.length

theorem owns_of_mem_lines {maxLength : Nat} {delivery : Delivery α} {line : ByteArray}
    (member : line ∈ delivery.lines maxLength) : delivery.Owns maxLength line := List.mem_filterMap.mp member

theorem owned_of_packed {maxLength : Nat} {delivery : Delivery α} {groups : List (List ByteArray)}
    (packing : IsPacking maxLength (delivery.lines maxLength) delivery.payloads groups) :
    ∀ payload ∈ delivery.payloads, ∃ lines : List ByteArray,
      payload = joined lines ∧ ∀ line ∈ lines, delivery.Owns maxLength line := by
  intro payload member
  obtain ⟨group, own, rfl⟩ := List.mem_map.mp (packing.made ▸ member)
  refine ⟨group, rfl, fun line inGroup => owns_of_mem_lines ?_⟩
  rw [packing.whole]
  exact List.mem_flatten_of_mem own inGroup

/-- Flushes that own the same line are of the same second: a line ends with the timestamp. -/
theorem sharesSecond_of_owns {maxLength : Nat} {delivery other : Delivery α} {line : ByteArray}
    (own : delivery.Owns maxLength line) (otherOwn : other.Owns maxLength line) : delivery.SharesSecond other := by
  obtain ⟨point, member, fitting⟩ := own
  obtain ⟨later, laterMember, laterFitting⟩ := otherOwn
  exact ⟨point, member, later, laterMember, Datapoint.timestamp_eq_of_fitting fitting laterFitting⟩

theorem joined_payloads {maxLength : Nat} {deliveries : List (Delivery α)}
    (accounts : ∀ delivery ∈ deliveries, delivery.Accounts maxLength) :
    joined (deliveries.flatMap payloads) = joined (deliveries.flatMap (lines maxLength)) := by
  induction deliveries with
  | nil => rfl
  | cons delivery rest ih =>
      rw [List.flatMap_cons, List.flatMap_cons, joined_append, joined_append,
        ih fun other member => accounts other (List.mem_cons_of_mem _ member),
        (accounts delivery List.mem_cons_self).own, PayloadWriter.joined_payloadsOf]
      rfl

end Delivery

namespace Scheduler

variable {α φ μ σ : Type} [Number α] [MetricFactory φ] [MetricPlugin φ μ α]

def move (scheduler : Scheduler α φ μ) (send : σ → ByteArray → Bool × σ) (sink : σ) :
    Move α → Option FlushReport × σ × Scheduler α φ μ
  | .give step => (none, sink, { scheduler with engine := (scheduler.engine.step step).2 })
  | .poll now => scheduler.poll now send sink
  | .flush =>
    let (report, sink, scheduler) := scheduler.flush send sink
    (some report, sink, scheduler)

def run (scheduler : Scheduler α φ μ) (send : σ → ByteArray → Bool × σ) (sink : σ) :
    List (Move α) → List FlushReport × σ × Scheduler α φ μ
  | [] => ([], sink, scheduler)
  | first :: rest =>
    let (report?, sink, scheduler) := scheduler.move send sink first
    let (reports, final) := scheduler.run send sink rest
    (report?.toList ++ reports, final)

def points (scheduler : Scheduler α φ μ) : List (Datapoint α) :=
  (scheduler.engine.flush scheduler.flushInterval scheduler.percent).1

/-- The datapoints that are reported in a move if there is a flush in it. -/
def pointsIn (scheduler : Scheduler α φ μ) : Move α → List (Datapoint α)
  | .give _ => []
  | .poll now => (scheduler.tickIfDue now).points
  | .flush => scheduler.points

def deliver (scheduler : Scheduler α φ μ) (send : σ → ByteArray → Bool × σ) (sink : σ) (move : Move α) :
    Option (Delivery α) × σ × Scheduler α φ μ :=
  let (report?, (sink, outcomes), next) := scheduler.move (recording send) (sink, []) move
  (report?.map fun report => ⟨scheduler.pointsIn move, outcomes, report⟩, sink, next)

def deliveries (scheduler : Scheduler α φ μ) (send : σ → ByteArray → Bool × σ) (sink : σ) :
    List (Move α) → List (Delivery α) × σ × Scheduler α φ μ
  | [] => ([], sink, scheduler)
  | first :: rest =>
    let (delivery?, sink, scheduler) := scheduler.deliver send sink first
    let (others, final) := scheduler.deliveries send sink rest
    (delivery?.toList ++ others, final)

def offered (scheduler : Scheduler α φ μ) : List ByteArray :=
  (scheduler.writer.writeAll scheduler.points).2.takePayloads.1.toList

variable {maxLength : Nat} {scheduler : Scheduler α φ μ} (send : σ → ByteArray → Bool × σ) (sink : σ)

theorem flush_eq : scheduler.flush send sink =
    (⟨scheduler.points.length, (scheduler.writer.writeAll scheduler.points).1.dropped,
        (outcomes send scheduler.offered sink).countP fun outcome => outcome.2,
        (outcomes send scheduler.offered sink).countP fun outcome => !outcome.2⟩,
      (sendAll send scheduler.offered sink).2,
      { scheduler with
        engine := (scheduler.engine.flush scheduler.flushInterval scheduler.percent).2
        writer := .empty (scheduler.writer.writeAll scheduler.points).2.maxLength }) := by
  obtain ⟨successes, failures⟩ := counts_sendAll send scheduler.offered sink
  rw [flush, ← successes, ← failures]
  simp only [offered, points, PayloadWriter.takePayloads]

theorem deliver_flush : scheduler.deliver send sink .flush =
    (some ⟨scheduler.points, outcomes send scheduler.offered sink, (scheduler.flush send sink).1⟩,
      (scheduler.flush send sink).2) := by
  have recorded := sendAll_recording send scheduler.offered sink []
  rw [List.nil_append] at recorded
  simp only [deliver, move, flush_eq, recorded, outcomes_recording, pointsIn, Option.map_some]

theorem deliver_poll (now : Nat) : scheduler.deliver send sink (.poll now) =
    if (scheduler.tickIfDue now).nextFlush ≤ now then
      { scheduler.tickIfDue now with
        nextFlush := now + (scheduler.tickIfDue now).flushInterval.nanoseconds }.deliver send sink .flush
    else (none, sink, scheduler.tickIfDue now) := by
  by_cases due : (scheduler.tickIfDue now).nextFlush ≤ now
  · simp only [deliver, move, poll, if_pos due, pointsIn, points]
  · simp only [deliver, move, poll, if_neg due, Option.map_none]

omit [MetricFactory φ] [MetricPlugin φ μ α] in
theorem writer_tickIfDue (now : Nat) : (scheduler.tickIfDue now).writer = scheduler.writer := by
  unfold tickIfDue
  split <;> rfl

/-- A flush starts with nothing in its writer and ends so. -/
theorem accounts_flush (ready : scheduler.writer = .empty maxLength) :
    (scheduler.flush send sink).2.2.writer = .empty maxLength ∧
      Delivery.Accounts maxLength
        ⟨scheduler.points, outcomes send scheduler.offered sink, (scheduler.flush send sink).1⟩ := by
  obtain ⟨written, gathers⟩ := PayloadWriter.Gathers.writeAll scheduler.points
    (PayloadWriter.gathers_empty maxLength)
  rw [← ready] at written gathers
  have limit := gathers.limit
  obtain ⟨closed, opened, whole, holds⟩ := gathers
  obtain ⟨groups, packing⟩ := holds.takePayloads
  rw [whole, List.nil_append] at packing
  refine ⟨by rw [flush_eq, limit], ?_⟩
  simp only [flush_eq]
  have packed (report : FlushReport) : IsPacking maxLength
      (scheduler.points.filterMap (Datapoint.fitting? maxLength))
      (Delivery.payloads ⟨scheduler.points, outcomes send scheduler.offered sink, report⟩) groups := by
    rw [Delivery.payloads, map_fst_outcomes]
    exact packing
  constructor
  case own => rw [Delivery.payloads, map_fst_outcomes, offered, PayloadWriter.payloadsOf, ready]
  case packed => exact ⟨groups, packed _⟩
  case owned => exact Delivery.owned_of_packed (packed _)
  case datapoints => rfl
  case dropped =>
    rw [written, Delivery.lines, Datapoint.length_filterMap_fitting, Nat.add_comm, countP_add_countP_not]
  case sent => rfl
  case failed => rfl
  case all =>
    rw [Delivery.payloads, List.length_map, countP_add_countP_not]

theorem accounts_deliver (ready : scheduler.writer = .empty maxLength) (move : Move α) :
    (scheduler.deliver send sink move).2.2.writer = .empty maxLength ∧
      ∀ delivery ∈ (scheduler.deliver send sink move).1, delivery.Accounts maxLength := by
  have flush {scheduler : Scheduler α φ μ} (ready : scheduler.writer = .empty maxLength) :
      (scheduler.deliver send sink .flush).2.2.writer = .empty maxLength ∧
        ∀ delivery ∈ (scheduler.deliver send sink .flush).1, delivery.Accounts maxLength := by
    simp only [deliver_flush]
    obtain ⟨after, accounts⟩ := accounts_flush send sink ready
    refine ⟨after, ?_⟩
    intro delivery made
    cases made
    exact accounts
  -- A poll that finds a flush due is a flush, of a scheduler with other deadlines.
  cases move with
  | give step => exact ⟨ready, nofun⟩
  | flush => exact flush ready
  | poll now =>
      have same : (scheduler.tickIfDue now).writer = .empty maxLength := (writer_tickIfDue now).trans ready
      rw [deliver_poll]
      split
      · exact flush same
      · exact ⟨same, nofun⟩

/-- A sink is not told apart from one that keeps what it is offered. -/
theorem report_deliver (move : Move α) :
    ((scheduler.deliver send sink move).1.map Delivery.report, (scheduler.deliver send sink move).2) =
      scheduler.move send sink move := by
  cases move with
  | give step => rfl
  | flush =>
      rw [deliver_flush, Option.map_some, Scheduler.move]
  | poll now =>
      rw [deliver_poll, Scheduler.move, poll]
      by_cases due : (scheduler.tickIfDue now).nextFlush ≤ now
      · simp only [if_pos due, deliver_flush, Option.map_some]
      · simp only [if_neg due, Option.map_none]

variable {τ : Type} (other : τ → ByteArray → Bool × τ) (otherSink : τ)

/-- What is offered, and what the scheduler goes on with, does not depend on the sink. -/
theorem offer_deliver (scheduler : Scheduler α φ μ) (move : Move α) :
    (scheduler.deliver send sink move).1.map Delivery.offer =
        (scheduler.deliver other otherSink move).1.map Delivery.offer ∧
      (scheduler.deliver send sink move).2.2 = (scheduler.deliver other otherSink move).2.2 := by
  have flush {scheduler : Scheduler α φ μ} :
      (scheduler.deliver send sink .flush).1.map Delivery.offer =
          (scheduler.deliver other otherSink .flush).1.map Delivery.offer ∧
        (scheduler.deliver send sink .flush).2.2 = (scheduler.deliver other otherSink .flush).2.2 := by
    simp only [deliver_flush, flush_eq, Option.map_some, Delivery.offer, Delivery.payloads, map_fst_outcomes,
      and_self]
  cases move with
  | give step => exact ⟨rfl, rfl⟩
  | flush => exact flush
  | poll now =>
      rw [deliver_poll, deliver_poll]
      split
      · exact flush
      · exact ⟨rfl, rfl⟩

theorem report_deliveries (moves : List (Move α)) : ∀ (scheduler : Scheduler α φ μ) (sink : σ),
    ((scheduler.deliveries send sink moves).1.map Delivery.report,
        (scheduler.deliveries send sink moves).2) = scheduler.run send sink moves := by
  induction moves with
  | nil => exact fun _ _ => rfl
  | cons first rest ih =>
      intro scheduler sink
      simp only [deliveries, run, ← report_deliver, ← ih, List.map_append, Option.toList_map]

theorem accounts_deliveries (moves : List (Move α)) : ∀ (scheduler : Scheduler α φ μ) (sink : σ),
    scheduler.writer = .empty maxLength →
      (scheduler.deliveries send sink moves).2.2.writer = .empty maxLength ∧
        ∀ delivery ∈ (scheduler.deliveries send sink moves).1, delivery.Accounts maxLength := by
  induction moves with
  | nil => exact fun _ _ ready => ⟨ready, nofun⟩
  | cons first rest ih =>
      intro scheduler sink ready
      obtain ⟨next, accounts⟩ := accounts_deliver send sink ready first
      obtain ⟨final, others⟩ := ih _ (scheduler.deliver send sink first).2.1 next
      refine ⟨final, ?_⟩
      intro delivery member
      rcases List.mem_append.mp member with made | later
      · exact accounts delivery (Option.mem_toList.mp made)
      · exact others delivery later

theorem offer_deliveries (moves : List (Move α)) :
    ∀ (scheduler : Scheduler α φ μ) (sink : σ) (otherSink : τ),
      (scheduler.deliveries send sink moves).1.map Delivery.offer =
          (scheduler.deliveries other otherSink moves).1.map Delivery.offer ∧
        (scheduler.deliveries send sink moves).2.2 = (scheduler.deliveries other otherSink moves).2.2 := by
  induction moves with
  | nil => exact fun _ _ _ => ⟨rfl, rfl⟩
  | cons first rest ih =>
      intro scheduler sink otherSink
      obtain ⟨offers, same⟩ := offer_deliver send sink other otherSink scheduler first
      obtain ⟨others, final⟩ := ih (scheduler.deliver other otherSink first).2.2
        (scheduler.deliver send sink first).2.1 (scheduler.deliver other otherSink first).2.1
      -- The two runs go on from one scheduler, though their sinks may differ by now.
      rw [← same] at others final
      simp only [deliveries, List.map_append, ← Option.toList_map, offers, ← same, others, final, and_self]

/-- Whatever happens to a scheduler and whatever becomes of the payloads that it sends on, each of its flushes
offers the lines of its own datapoints and no others, packed in their order, and counts what was sent, what was
not and what could not be written. Its writer is left empty: all that is offered in a run are the lines of each
flush, once, and none of them again in a later one. What is offered, and what the scheduler goes on with, is the
same for every sink, one that never fails among them.

Flushes of the same second are a case apart: each may have a datapoint of its own with the same line. -/
theorem deliveries_accounted (engine : Engine α φ μ) (maxLength : Nat) (flushInterval tickInterval : Duration)
    (percent start : Nat) (moves : List (Move α)) :
    let scheduler := Scheduler.new engine (.empty maxLength) flushInterval tickInterval percent start
    let delivered := (scheduler.deliveries send sink moves).1
    let final := (scheduler.run send sink moves).2.2
    (delivered.map Delivery.report, (scheduler.deliveries send sink moves).2) = scheduler.run send sink moves ∧
      (∀ delivery ∈ delivered, delivery.Accounts maxLength) ∧
      final.writer = .empty maxLength ∧
      joined (delivered.flatMap Delivery.payloads) = joined (delivered.flatMap (Delivery.lines maxLength)) ∧
      delivered.Pairwise (fun earlier later => ∀ line, earlier.Owns maxLength line → later.Owns maxLength line →
        earlier.SharesSecond later) ∧
      ∀ (τ : Type) (other : τ → ByteArray → Bool × τ) (otherSink : τ),
        delivered.map Delivery.offer = (scheduler.deliveries other otherSink moves).1.map Delivery.offer ∧
          final = (scheduler.run other otherSink moves).2.2 := by
  intro scheduler delivered final
  have reported := report_deliveries send moves scheduler sink
  have after : (scheduler.deliveries send sink moves).2.2 = final :=
    congrArg (fun result => result.2.2) reported
  have fresh : scheduler.writer = .empty maxLength := rfl
  obtain ⟨ready, accounts⟩ := accounts_deliveries send moves scheduler sink fresh
  refine ⟨reported, accounts, after ▸ ready, Delivery.joined_payloads accounts, ?_, ?_⟩
  · exact List.pairwise_of_forall fun _ _ _ own otherOwn => Delivery.sharesSecond_of_owns own otherOwn
  · intro τ other otherSink
    obtain ⟨offers, same⟩ := offer_deliveries send other moves scheduler sink otherSink
    refine ⟨offers, ?_⟩
    rw [← after, same, ← report_deliveries]

end Scheduler

end MetricAggregation
