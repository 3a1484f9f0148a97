import Mathlib.Order.Lattice
import Mathlib.Order.MinMax

/-!
The history of a timer: the durations for it and the flushes, latest event first. From it follow the
interval that just ended and the interval over which a timer counts its rate.
-/

namespace MetricAggregation

/-- What bears on a timer, with the reading of the wall clock: a duration for it, or a flush. -/
inductive TimerEvent (α : Type) where
  | duration (value moment : α)
  | flush (moment : α)

namespace TimerEvent

variable {α : Type}

def moment : TimerEvent α → α
  | duration _ moment => moment
  | flush moment => moment

def sinceFlush : List (TimerEvent α) → List α
  | [] => []
  | duration value _ :: rest => value :: sinceFlush rest
  | flush _ :: _ => []

def previousFlush? : List (TimerEvent α) → Option α
  | [] => none
  | duration _ _ :: rest => previousFlush? rest
  | flush moment :: _ => some moment

/-- When the last flush was that had a duration to report. -/
def lastReport? : List (TimerEvent α) → Option α
  | [] => none
  | duration _ _ :: rest => lastReport? rest
  | flush moment :: rest => if (sinceFlush rest).isEmpty then lastReport? rest else some moment

/-- When the first duration came, and the timer with it. -/
def created? : List (TimerEvent α) → Option α
  | [] => none
  | duration _ moment :: rest => some ((created? rest).getD moment)
  | flush _ :: rest => created? rest

/-- The time from which a timer counts its rate: its last report, or its creation. -/
def rateStart? (history : List (TimerEvent α)) : Option α :=
  (lastReport? history).or (created? history)

def Ordered [LE α] (history : List (TimerEvent α)) : Prop :=
  history.Pairwise fun later earlier => earlier.moment ≤ later.moment

theorem flush_mem_of_previousFlush {moment : α} : ∀ {history : List (TimerEvent α)},
    previousFlush? history = some moment → flush moment ∈ history := by
  intro history found
  induction history with
  | nil => cases found
  | cons event rest ih =>
      cases event with
      | duration value at_ => exact List.mem_cons_of_mem _ (ih found)
      | flush at_ =>
          obtain rfl := Option.some.inj found
          exact List.mem_cons_self

theorem flush_mem_of_lastReport {moment : α} : ∀ {history : List (TimerEvent α)},
    lastReport? history = some moment → flush moment ∈ history := by
  intro history found
  induction history with
  | nil => cases found
  | cons event rest ih =>
      cases event with
      | duration value at_ => exact List.mem_cons_of_mem _ (ih found)
      | flush at_ =>
          by_cases idle : (sinceFlush rest).isEmpty
          · rw [lastReport?, if_pos idle] at found
            exact List.mem_cons_of_mem _ (ih found)
          · rw [lastReport?, if_neg idle] at found
            obtain rfl := Option.some.inj found
            exact List.mem_cons_self

theorem duration_mem_of_created {moment : α} : ∀ {history : List (TimerEvent α)},
    created? history = some moment → ∃ value, duration value moment ∈ history := by
  intro history found
  induction history with
  | nil => cases found
  | cons event rest ih =>
      cases event with
      | duration value at_ =>
          cases earlier : created? rest with
          | none =>
              simp only [created?, earlier, Option.getD_none, Option.some.injEq] at found
              subst found
              exact ⟨value, List.mem_cons_self⟩
          | some first =>
              simp only [created?, earlier, Option.getD_some, Option.some.injEq] at found
              subst found
              obtain ⟨value, member⟩ := ih earlier
              exact ⟨value, List.mem_cons_of_mem _ member⟩
      | flush at_ =>
          obtain ⟨value, member⟩ := ih found
          exact ⟨value, List.mem_cons_of_mem _ member⟩

theorem sinceFlush_nil_of_created {history : List (TimerEvent α)} (absent : created? history = none) :
    sinceFlush history = [] := by
  cases history with
  | nil => rfl
  | cons event rest =>
      cases event with
      | duration value at_ => cases absent
      | flush at_ => rfl

theorem lastReport_none_of_created : ∀ {history : List (TimerEvent α)},
    created? history = none → lastReport? history = none := by
  intro history absent
  induction history with
  | nil => rfl
  | cons event rest ih =>
      cases event with
      | duration value at_ => cases absent
      | flush at_ =>
          have quiet : sinceFlush rest = [] := sinceFlush_nil_of_created absent
          simpa [lastReport?, quiet] using ih absent

/-- A duration moves the start of the rate only if it is the first. -/
theorem rateStart_duration {history : List (TimerEvent α)} {began : α}
    (counted : rateStart? history = some began) (value moment : α) :
    rateStart? (duration value moment :: history) = some began := by
  unfold rateStart? at counted ⊢
  rw [lastReport?, created?]
  cases report : lastReport? history with
  | none =>
      rw [report, Option.none_or] at counted
      simp [counted]
  | some at_ =>
      rw [report, Option.some_or] at counted
      rw [Option.some_or, counted]

theorem lastReport_le_previousFlush [Preorder α] {moment : α} : ∀ {history : List (TimerEvent α)},
    Ordered history → lastReport? history = some moment →
      ∃ flushed, previousFlush? history = some flushed ∧ moment ≤ flushed := by
  intro history ordered found
  induction history with
  | nil => cases found
  | cons event rest ih =>
      obtain ⟨before, rest_ordered⟩ := List.pairwise_cons.mp ordered
      cases event with
      | duration value at_ => exact ih rest_ordered found
      | flush at_ =>
          refine ⟨at_, rfl, ?_⟩
          by_cases idle : (sinceFlush rest).isEmpty
          · rw [lastReport?, if_pos idle] at found
            exact before _ (flush_mem_of_lastReport found)
          · rw [lastReport?, if_neg idle] at found
            exact (Option.some.inj found).ge

variable [LinearOrder α]

/-- The start of the interval that just ended for a timer: the last flush, or its creation if that was
later. -/
def intervalStart? (history : List (TimerEvent α)) : Option α :=
  (created? history).map fun created => (previousFlush? history).elim created (max created)

theorem intervalStart_of_sinceFlush {history : List (TimerEvent α)} (busy : sinceFlush history ≠ []) :
    ∃ due, intervalStart? history = some due := by
  unfold intervalStart?
  cases made : created? history with
  | none => exact absurd (sinceFlush_nil_of_created made) busy
  | some created => exact ⟨_, rfl⟩

theorem rateStart_le_intervalStart {history : List (TimerEvent α)} (ordered : Ordered history)
    {began due : α} (counted : rateStart? history = some began)
    (ended : intervalStart? history = some due) : began ≤ due := by
  obtain ⟨created, made, rfl⟩ := Option.map_eq_some_iff.mp ended
  cases report : lastReport? history with
  | none =>
      rw [rateStart?, report, Option.none_or, made, Option.some.injEq] at counted
      subst counted
      cases previousFlush? history with
      | none => exact le_rfl
      | some flushed => exact le_max_left created flushed
  | some moment =>
      rw [rateStart?, report, Option.some_or, Option.some.injEq] at counted
      subst counted
      obtain ⟨flushed, last, bound⟩ := lastReport_le_previousFlush ordered report
      rw [last]
      exact bound.trans (le_max_right created flushed)

theorem intervalStart_le {history : List (TimerEvent α)} {due now : α}
    (past : ∀ event ∈ history, event.moment ≤ now) (ended : intervalStart? history = some due) :
    due ≤ now := by
  obtain ⟨created, made, rfl⟩ := Option.map_eq_some_iff.mp ended
  obtain ⟨value, first⟩ := duration_mem_of_created made
  cases last : previousFlush? history with
  | none => exact past _ first
  | some flushed => exact max_le (past _ first) (past _ (flush_mem_of_previousFlush last))

end TimerEvent

end MetricAggregation
