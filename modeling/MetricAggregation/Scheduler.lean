import MetricAggregation.Engine.Flush
import MetricAggregation.Engine.Process
import MetricAggregation.PayloadWriter

/-!
What drives an engine: meters are ticked at one interval, and at another the engine is flushed and what it
reports is sent on. Instants are readings of a clock in nanoseconds that never goes back.
-/

namespace MetricAggregation

/-- How a flush went: its datapoints, those that could not be written, and the payloads that could be sent
and those that could not. -/
structure FlushReport where
  datapoints : Nat
  pointsDropped : Nat
  payloadsSent : Nat
  payloadsFailed : Nat
deriving DecidableEq, Repr

/-- An engine with what is due on it. -/
structure Scheduler (α φ μ : Type) where
  engine : Engine α φ μ
  writer : PayloadWriter
  flushInterval : Duration
  tickInterval : Duration
  percent : Nat
  nextFlush : Nat
  nextTick : Nat

/-- Sends payloads in order, whatever becomes of each. The counts are of those that were sent and those
that were not. -/
def sendAll {σ : Type} (send : σ → ByteArray → Bool × σ) :
    List ByteArray → σ → (Nat × Nat) × σ
  | [], sink => ((0, 0), sink)
  | payload :: rest, sink =>
    let (sent, sink) := send sink payload
    let ((successes, failures), sink) := sendAll send rest sink
    ((if sent then (successes + 1, failures) else (successes, failures + 1)), sink)

namespace Scheduler

variable {α φ μ : Type}

def new (engine : Engine α φ μ) (writer : PayloadWriter) (flushInterval tickInterval : Duration)
    (percent start : Nat) : Scheduler α φ μ where
  engine := engine
  writer := writer
  flushInterval := flushInterval
  tickInterval := tickInterval
  percent := percent
  nextFlush := start + flushInterval.nanoseconds
  nextTick := start + tickInterval.nanoseconds

def pause (scheduler : Scheduler α φ μ) (now : Nat) : Duration :=
  ⟨min scheduler.nextFlush scheduler.nextTick - now⟩

variable [Number α]

def tickIfDue (scheduler : Scheduler α φ μ) (now : Nat) : Scheduler α φ μ :=
  if scheduler.nextTick ≤ now then
    { scheduler with
      engine := scheduler.engine.tickMeters
      nextTick := now + scheduler.tickInterval.nanoseconds }
  else scheduler

variable [MetricFactory φ] [MetricPlugin φ μ α] {σ : Type}

def flush (scheduler : Scheduler α φ μ) (send : σ → ByteArray → Bool × σ) (sink : σ) :
    FlushReport × σ × Scheduler α φ μ :=
  let (points, engine) := scheduler.engine.flush scheduler.flushInterval scheduler.percent
  let (result, writer) := scheduler.writer.writeAll points
  let (payloads, writer) := writer.takePayloads
  let ((sent, failed), sink) := sendAll send payloads.toList sink
  (⟨points.length, result.dropped, sent, failed⟩, sink,
    { scheduler with engine := engine, writer := writer })

/-- Does what is due at an instant. The report is that of the flush, if one was due. -/
def poll (scheduler : Scheduler α φ μ) (now : Nat) (send : σ → ByteArray → Bool × σ) (sink : σ) :
    Option FlushReport × σ × Scheduler α φ μ :=
  let scheduler := scheduler.tickIfDue now
  if scheduler.nextFlush ≤ now then
    let scheduler := { scheduler with nextFlush := now + scheduler.flushInterval.nanoseconds }
    let (report, sink, scheduler) := scheduler.flush send sink
    (some report, sink, scheduler)
  else (none, sink, scheduler)

end Scheduler

end MetricAggregation
