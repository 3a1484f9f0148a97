import Mathlib
import MetricAggregation.Proofs.Engine.Attribution
import MetricAggregation.Proofs.Engine.Summary

/-!
Every message that an engine is given is accounted for once: it is discarded as a bad line, or it is counted
for its tag, in a flush or until the next one.
-/

namespace MetricAggregation

/-- Whether a direct update is turned down: its value is not finite, or nothing is left of its key. -/
def IsRejected {α : Type} [Number α] (key : String) (value : α) : Prop :=
  Number.isFinite value = false ∨ Key.normalize key = ""

instance {α : Type} [Number α] (key : String) (value : α) : Decidable (IsRejected key value) :=
  inferInstanceAs (Decidable (_ ∨ _))

/-- How much has to be accounted for in a step: the messages, of a packet the lines that are not blank, and
direct updates that are turned down. -/
def Step.given {α : Type} [Number α] : Step α → Nat
  | .message _ => 1
  | .packet bytes => (bytes.splitOn 0x0A).countP fun line => !line.all Engine.isBlankByte
  | .increment key value => if IsRejected key value then 1 else 0
  | .timing key duration => if IsRejected key duration then 1 else 0
  | .tick => 0
  | .flush _ _ => 0
  | .setWallClock _ => 0
  | .setStopwatch _ => 0

/-- The values that stand under a path in the report of an engine on its own work. -/
def ownValues {α : Type} (path : String) (points : List (Attributed α)) : List α :=
  (points.filter fun entry => entry.origin = none ∧ entry.point.path = path).map fun entry => entry.point.value

namespace Note

def tag? : Note → Option String
  | received tag => some tag
  | discarded => none

theorem count_filterMap_tag? (notes : List Note) (tag : String) :
    (notes.filterMap tag?).count tag = notes.count (received tag) := by
  induction notes with
  | nil => rfl
  | cons note rest ih =>
      cases note with
      | received other =>
          rw [List.filterMap_cons_some (rfl : tag? (received other) = some other), List.count_cons,
            List.count_cons, ih]
          simp
      | discarded =>
          have other : discarded ≠ received tag := nofun
          rw [List.filterMap_cons_none (rfl : tag? discarded = none), ih, List.count_cons_of_ne other]

theorem length_eq_count_add (notes : List Note) :
    notes.length = notes.count discarded + (notes.filterMap tag?).length := by
  induction notes with
  | nil => rfl
  | cons note rest ih =>
      cases note with
      | received tag =>
          have other : received tag ≠ discarded := nofun
          rw [List.filterMap_cons_some (rfl : tag? (received tag) = some tag), List.length_cons, ih,
            List.length_cons, List.count_cons_of_ne other, Nat.add_assoc]
      | discarded =>
          rw [List.filterMap_cons_none (rfl : tag? discarded = none), List.length_cons, ih,
            List.count_cons_self, Nat.add_right_comm]

theorem length_eq_sum (notes : List Note) :
    notes.length = notes.count discarded +
      ∑ tag ∈ (notes.filterMap tag?).toFinset, notes.count (received tag) := by
  rw [length_eq_count_add, ← List.sum_toFinset_count_eq_length]
  simp only [count_filterMap_tag?]

end Note

namespace Engine

variable {α φ μ : Type} [Number α]

theorem origin_of_metricPoints {engine : Engine α φ μ} {seconds : α} {percent timestamp : Nat}
    {reports : ExtensionReports α μ} {entry : Attributed α}
    (member : entry ∈ engine.counterPoints seconds timestamp ++ engine.timerPoints percent timestamp ++
      engine.gaugePoints timestamp ++ engine.meterPoints timestamp ++ extensionPoints reports) :
    entry.origin ≠ none := by
  simp only [List.mem_append, counterPoints, timerPoints, gaugePoints, meterPoints, extensionPoints,
    attributedStatistics, mem_sortAttributed, List.mem_flatMap, List.mem_map, List.mem_cons, List.not_mem_nil,
    or_false] at member
  rcases member with (((⟨_, _, rfl | rfl⟩ | ⟨_, _, _, _, rfl⟩) | ⟨_, _, rfl⟩) | ⟨_, _, _, _, rfl⟩) |
    ⟨_, _, _, _, _, _, rfl⟩
  all_goals exact Option.some_ne_none _

/-- The number of messages of a tag that the next flush reports. -/
def pendingReceived (engine : Engine α φ μ) (tag : String) : Nat := (engine.receivedCount tag).getD 0

variable [MetricFactory φ] [MetricPlugin φ μ α]

theorem ownValues_attributedFlush (engine : Engine α φ μ) (interval : Duration) (percent : Nat)
    (tag : String) :
    ownValues (receivedPath engine.settings tag) (engine.attributedFlush interval percent) =
      (engine.receivedCount tag).toList.map Nat.cast := by
  have others : ((engine.counterPoints (interval.seconds α) (Number.floorNat engine.wallClock) ++
      engine.timerPoints percent (Number.floorNat engine.wallClock) ++
      engine.gaugePoints (Number.floorNat engine.wallClock) ++
      engine.meterPoints (Number.floorNat engine.wallClock) ++
      extensionPoints (engine.flushExtensions (interval.seconds α) (Number.floorNat engine.wallClock))).filter
        fun entry => entry.origin = none ∧ entry.point.path = receivedPath engine.settings tag) = [] := by
    rw [List.filter_eq_nil_iff]
    intro entry member own
    exact origin_of_metricPoints member (of_decide_eq_true own).1
  unfold ownValues attributedFlush
  dsimp only
  rw [List.filter_append, others, List.nil_append, List.filter_map, List.map_map]
  simp only [Function.comp_def, true_and]
  rw [filter_received_summary, List.map_map]
  rfl

def reportedReceived? (engine : Engine α φ μ) (tag : String) : Step α → Option Nat
  | .flush _ _ => engine.receivedCount tag
  | _ => none

/-- How many messages of a tag the flushes of a run report, flush by flush. -/
def reportedReceived (engine : Engine α φ μ) (tag : String) : List (Step α) → List Nat
  | [] => []
  | first :: rest =>
    (engine.reportedReceived? tag first).toList ++ (engine.step first).2.reportedReceived tag rest

def notesIn (engine : Engine α φ μ) : List (Step α) → List Note
  | [] => []
  | first :: rest => engine.notes first ++ (engine.step first).2.notesIn rest

theorem ownValues_attributedReport (engine : Engine α φ μ) (tag : String) (step : Step α) :
    (engine.attributedReport step).toList.flatMap (ownValues (receivedPath engine.settings tag)) =
      (engine.reportedReceived? tag step).toList.map Nat.cast := by
  cases step with
  | flush interval percent =>
      exact (List.flatMap_singleton _ _).trans (engine.ownValues_attributedFlush interval percent tag)
  | message | packet | increment | timing | tick | setWallClock | setStopwatch => rfl

theorem ownValues_attributedReports (settings : Settings) (tag : String) (steps : List (Step α)) :
    ∀ engine : Engine α φ μ, engine.settings = settings →
      (engine.attributedReports steps).flatMap (ownValues (receivedPath settings tag)) =
        (engine.reportedReceived tag steps).map Nat.cast := by
  induction steps with
  | nil => exact fun _ _ => rfl
  | cons first rest ih =>
      rintro engine rfl
      rw [attributedReports, reportedReceived, List.flatMap_append, List.map_append,
        engine.ownValues_attributedReport, ih _ ((invariant_settings engine.settings).step first rfl)]

theorem reportedReceived_step (engine : Engine α φ μ) (tag : String) (step : Step α) :
    (engine.reportedReceived? tag step).toList.sum + (engine.step step).2.pendingReceived tag =
      engine.pendingReceived tag + (engine.notes step).count (.received tag) := by
  have others (unflushed : ∀ interval percent, step ≠ .flush interval percent) :
      (engine.step step).2.pendingReceived tag =
        engine.pendingReceived tag + (engine.notes step).count (.received tag) := by
    rw [pendingReceived, (engine.records_step step unflushed).received, raised]
    split
    · rename_i none
      rw [none, Nat.add_zero, pendingReceived]
    · rfl
  cases step with
  | flush interval percent =>
      -- A flush reports just what was pending, and nothing is pending after it.
      change (engine.receivedCount tag).toList.sum + 0 = engine.pendingReceived tag + 0
      rw [pendingReceived]
      cases engine.receivedCount tag with
      | none => rfl
      | some count => exact congrArg (· + 0) (List.sum_singleton)
  | message | packet | increment | timing | tick | setWallClock | setStopwatch =>
      exact (Nat.zero_add _).trans (others (by simp))

theorem reportedReceived_run (tag : String) (steps : List (Step α)) : ∀ engine : Engine α φ μ,
    (engine.reportedReceived tag steps).sum + (engine.run steps).2.pendingReceived tag =
      engine.pendingReceived tag + (engine.notesIn steps).count (.received tag) := by
  induction steps with
  | nil => exact fun engine => Nat.add_comm _ _
  | cons first rest ih =>
      intro engine
      calc
        _ = (engine.reportedReceived? tag first).toList.sum +
            ((engine.step first).2.reportedReceived tag rest).sum +
              ((engine.step first).2.run rest).2.pendingReceived tag := by
          rw [reportedReceived, List.sum_append]
          rfl
        _ = (engine.reportedReceived? tag first).toList.sum + (engine.step first).2.pendingReceived tag +
            ((engine.step first).2.notesIn rest).count (.received tag) := by
          rw [Nat.add_assoc, ih, Nat.add_assoc]
        _ = _ := by
          rw [reportedReceived_step, Nat.add_assoc, notesIn, List.count_append]

theorem badLines_run (steps : List (Step α)) : ∀ engine : Engine α φ μ,
    (engine.run steps).2.badLines = engine.badLines + (engine.notesIn steps).count .discarded := by
  induction steps with
  | nil => exact fun _ => rfl
  | cons first rest ih =>
      intro engine
      change ((engine.step first).2.run rest).2.badLines = _
      rw [ih, badLines_step, notesIn, List.count_append, Nat.add_assoc]

theorem length_notesOf (lines : List (List UInt8)) : ∀ engine : Engine α φ μ,
    (engine.notesOf lines).length = lines.length := by
  induction lines with
  | nil => exact fun _ => rfl
  | cons bytes rest ih => exact fun engine => congrArg (· + 1) (ih (engine.process bytes))

omit [MetricFactory φ] [MetricPlugin φ μ α] in
theorem length_noteOfKey (key : String) (value : α) :
    (noteOfKey (directKey key value)).length = if IsRejected key value then 1 else 0 := by
  unfold directKey IsRejected
  dsimp only
  by_cases finite : Number.isFinite value = true
  · by_cases empty : Key.normalize key = ""
    · simp [finite, empty, noteOfKey]
    · simp [finite, empty, noteOfKey]
  · simp [finite, noteOfKey]

/-- Whatever is given to an engine, it notes once. -/
theorem length_notes (engine : Engine α φ μ) (step : Step α) :
    (engine.notes step).length = step.given := by
  cases step with
  | packet bytes =>
      exact (length_notesOf (packetLines bytes) engine).trans List.countP_eq_length_filter.symm
  | increment key value => exact length_noteOfKey key value
  | timing key duration => exact length_noteOfKey key duration
  | message | tick | flush | setWallClock | setStopwatch => rfl

theorem length_notesIn (steps : List (Step α)) : ∀ engine : Engine α φ μ,
    (engine.notesIn steps).length = (steps.map Step.given).sum := by
  induction steps with
  | nil => exact fun _ => rfl
  | cons first rest ih =>
      intro engine
      rw [notesIn, List.length_append, length_notes, ih, List.map_cons, List.sum_cons]

/-- In every run, whatever is given to an engine is a bad line or is counted for one tag, and what the flushes
report for a tag and what waits to be reported are together the messages that were accepted with it. The
reported numbers are the values of the datapoints that the engine adds to its flushes for the tag. -/
theorem given_eq_badLines_add_received (settings : Settings) (chance : Chance α) (plugins : Registry φ)
    (wallClock : α) (steps : List (Step α)) :
    let start : Engine α φ μ := .new settings chance plugins wallClock
    let final := (start.run steps).2
    let reports := start.attributedReports steps
    let received (tag : String) : Nat := (start.reportedReceived tag steps).sum + final.pendingReceived tag
    reports.map (List.map Attributed.point) = (start.run steps).1 ∧
      (∀ tag, reports.flatMap (ownValues (receivedPath settings tag)) =
        (start.reportedReceived tag steps).map Nat.cast) ∧
      (∀ tag, received tag = (start.notesIn steps).count (.received tag)) ∧
      ∃ tags : Finset String, (∀ tag, tag ∈ tags ↔ received tag ≠ 0) ∧
        (steps.map Step.given).sum = final.badLines + ∑ tag ∈ tags, received tag := by
  intro start final reports received
  have accepted (tag : String) : received tag = (start.notesIn steps).count (.received tag) :=
    (reportedReceived_run tag steps start).trans (Nat.zero_add _)
  have discarded : final.badLines = (start.notesIn steps).count .discarded :=
    (badLines_run steps start).trans (Nat.zero_add _)
  refine ⟨map_point_attributedReports steps start,
    fun tag => ownValues_attributedReports settings tag steps start rfl, accepted, ((start.notesIn steps).filterMap Note.tag?).toFinset, fun tag => ?_, ?_⟩
  · rw [List.mem_toFinset, ← List.count_pos_iff, Note.count_filterMap_tag?, accepted, Nat.pos_iff_ne_zero]
  · rw [← length_notesIn steps start, Note.length_eq_sum, discarded]
    simp only [accepted]

end Engine

end MetricAggregation
