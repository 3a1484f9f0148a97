import MetricAggregation.Duration
import MetricAggregation.Table

/-!
What an engine reports of its own work: how many metrics it flushed and how many messages it received, and
how long that took.
-/

namespace MetricAggregation

/-- How many pieces of work there were, and how long they took together. -/
structure Tally where
  count : Nat
  time : Duration
deriving DecidableEq, Repr

namespace Tally

def zero : Tally := ⟨0, ⟨0⟩⟩

def add (tally : Tally) (count nanoseconds : Nat) : Tally :=
  ⟨tally.count + count, ⟨tally.time.nanoseconds + nanoseconds⟩⟩

end Tally

/-- The kinds of metrics, each of which is flushed at once. -/
inductive FlushKind where
  | counter
  | timer
  | gauge
  | meter
  | plugin
deriving DecidableEq, Repr

namespace FlushKind

/-- Every kind, in the order of a flush. -/
def all : List FlushKind := [counter, timer, gauge, meter, plugin]

def name : FlushKind → String
  | counter => "counter"
  | timer => "timer"
  | gauge => "gauge"
  | meter => "meter"
  | plugin => "plugin"

end FlushKind

/-- How many metrics of each kind a flush reported, and how long that took. -/
structure FlushStats where
  counter : Tally
  timer : Tally
  gauge : Tally
  meter : Tally
  plugin : Tally

namespace FlushStats

def zero : FlushStats := ⟨.zero, .zero, .zero, .zero, .zero⟩

def tally (stats : FlushStats) : FlushKind → Tally
  | .counter => stats.counter
  | .timer => stats.timer
  | .gauge => stats.gauge
  | .meter => stats.meter
  | .plugin => stats.plugin

def record (stats : FlushStats) (kind : FlushKind) (count nanoseconds : Nat) : FlushStats :=
  match kind with
  | .counter => { stats with counter := stats.counter.add count nanoseconds }
  | .timer => { stats with timer := stats.timer.add count nanoseconds }
  | .gauge => { stats with gauge := stats.gauge.add count nanoseconds }
  | .meter => { stats with meter := stats.meter.add count nanoseconds }
  | .plugin => { stats with plugin := stats.plugin.add count nanoseconds }

def total (stats : FlushStats) : Nat :=
  FlushKind.all.foldl (fun total kind => total + (stats.tally kind).count) 0

end FlushStats

/-- How many messages of each tag were received since the last flush, and how long that took. -/
structure ReceiveStats where
  byTag : Table Tally

namespace ReceiveStats

def empty : ReceiveStats := ⟨.empty⟩

def record (stats : ReceiveStats) (tag : String) (nanoseconds : Nat) : ReceiveStats :=
  ⟨stats.byTag.upsert tag fun old => (old.getD .zero).add 1 nanoseconds⟩

def find? (stats : ReceiveStats) (tag : String) : Option Tally := stats.byTag.find? tag

def hadUpdates (stats : ReceiveStats) : Bool := !stats.byTag.entries.isEmpty

/-- The work by tag, sorted. -/
def sorted (stats : ReceiveStats) : List (String × Tally) :=
  stats.byTag.entries.mergeSort fun left right => decide (left.1 ≤ right.1)

end ReceiveStats

end MetricAggregation
