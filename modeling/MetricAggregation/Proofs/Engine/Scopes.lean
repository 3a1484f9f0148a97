import Mathlib
import MetricAggregation.Proofs.Engine.Reception
import MetricAggregation.Proofs.ScopedTimer

/-!
Scoped timers that come and go while an engine works. Whatever else happens in between, the counter of the
work in flight stands at the number of the live ones, and every end is counted once, by its outcome.
-/

namespace MetricAggregation

/-- A scoped timer, with the number of times that it was said to have succeeded. -/
structure Scope where
  timer : ScopedTimer
  marks : Nat
  succeeded : timer.succeeded = decide (0 < marks)

namespace Scope

def mark (scope : Scope) : Scope := ⟨scope.timer.succeed, scope.marks + 1, by simp [ScopedTimer.succeed]⟩

/-- The key that the timer of a scope counts under. -/
def key (scope : Scope) : String := Key.normalize scope.timer.key

def isMarked (scope : Scope) : Bool := 0 < scope.marks

@[simp] theorem key_mark (scope : Scope) : scope.mark.key = scope.key := rfl

end Scope

/-- An engine with the scopes that are live, in the order in which they began, and those that have ended. -/
structure Scopes (α φ μ : Type) where
  engine : Engine α φ μ
  live : List Scope
  ended : List Scope

/-- What may happen: a scope begins, is said to have succeeded or ends, or the engine takes a step. -/
inductive ScopeMove (α : Type) where
  | begin (key : String)
  | succeed (index : Nat)
  | finish (index : Nat)
  | step (step : Step α)

namespace Scopes

variable {α φ μ : Type}

def new (engine : Engine α φ μ) : Scopes α φ μ := ⟨engine, [], []⟩

variable [Number α] [MetricFactory φ] [MetricPlugin φ μ α]

/-- Makes a move. One that is about no live scope changes nothing. -/
def move (scopes : Scopes α φ μ) : ScopeMove α → Scopes α φ μ
  | .begin key =>
    let begun := ScopedTimer.begin scopes.engine key
    { scopes with engine := begun.2, live := scopes.live ++ [⟨begun.1, 0, rfl⟩] }
  | .succeed index => { scopes with live := scopes.live.modify index Scope.mark }
  | .finish index =>
    match scopes.live[index]? with
    | some scope =>
      { engine := scope.timer.finish scopes.engine
        live := scopes.live.eraseIdx index
        ended := scopes.ended ++ [scope] }
    | none => scopes
  | .step step => { scopes with engine := (scopes.engine.step step).2 }

def run (scopes : Scopes α φ μ) (moves : List (ScopeMove α)) : Scopes α φ μ := moves.foldl move scopes

/-- The steps that an engine takes at the end of some work. -/
def finishSteps (engine : Engine α φ μ) (timer : ScopedTimer) : List (Step α) :=
  [.increment (ScopedTimer.inFlight timer.key) (-1),
    .timing timer.key ((timer.elapsed engine).milliseconds α),
    .increment (ScopedTimer.outcome timer.key timer.succeeded) 1]

def stepsOf (scopes : Scopes α φ μ) : ScopeMove α → List (Step α)
  | .begin key => [.increment (ScopedTimer.inFlight key) 1]
  | .succeed _ => []
  | .finish index => scopes.live[index]?.toList.flatMap fun scope => finishSteps scopes.engine scope.timer
  | .step step => [step]

/-- The steps that the engine takes in all of the moves. -/
def steps (scopes : Scopes α φ μ) : List (ScopeMove α) → List (Step α)
  | [] => []
  | first :: rest => scopes.stepsOf first ++ (scopes.move first).steps rest

/-- The updates that are accepted in a move from others than scopes. -/
def othersOf (scopes : Scopes α φ μ) : ScopeMove α → List (Update α)
  | .step step => scopes.engine.accepted step
  | .begin _ => []
  | .succeed _ => []
  | .finish _ => []

def others (scopes : Scopes α φ μ) : List (ScopeMove α) → List (Update α)
  | [] => []
  | first :: rest => scopes.othersOf first ++ (scopes.move first).others rest

/-- What is noted in a move about others than scopes. -/
def notesOf (scopes : Scopes α φ μ) : ScopeMove α → List Note
  | .step step => scopes.engine.notes step
  | .begin _ => []
  | .succeed _ => []
  | .finish _ => []

def notes (scopes : Scopes α φ μ) : List (ScopeMove α) → List Note
  | [] => []
  | first :: rest => scopes.notesOf first ++ (scopes.move first).notes rest

end Scopes

namespace Engine

variable {α φ μ : Type} [Number α] [MetricFactory φ] [MetricPlugin φ μ α]

theorem run_append (first second : List (Step α)) : ∀ engine : Engine α φ μ,
    engine.run (first ++ second) =
      ((engine.run first).1 ++ ((engine.run first).2.run second).1, ((engine.run first).2.run second).2) := by
  induction first with
  | nil => exact fun _ => rfl
  | cons step rest ih =>
      intro engine
      simp only [List.cons_append, run, ih, List.append_assoc]

theorem acceptedIn_append (first second : List (Step α)) : ∀ engine : Engine α φ μ,
    engine.acceptedIn (first ++ second) =
      engine.acceptedIn first ++ (engine.run first).2.acceptedIn second := by
  induction first with
  | nil => exact fun _ => rfl
  | cons step rest ih =>
      intro engine
      simp only [List.cons_append, acceptedIn, run, ih, List.append_assoc]

end Engine

namespace Scopes

section Steps

variable {α φ μ : Type} [Number α] [MetricFactory φ] [MetricPlugin φ μ α]

theorem engine_move (scopes : Scopes α φ μ) (move : ScopeMove α) :
    (scopes.engine.run (scopes.stepsOf move)).2 = (scopes.move move).engine := by
  cases move with
  | begin | succeed | step => rfl
  | finish index =>
      simp only [stepsOf, Scopes.move]
      cases scopes.live[index]? with
      | none => rfl
      | some scope => rfl

/-- The moves come down to steps of the engine. -/
theorem engine_run (moves : List (ScopeMove α)) : ∀ scopes : Scopes α φ μ,
    (scopes.engine.run (scopes.steps moves)).2 = (scopes.run moves).engine := by
  induction moves with
  | nil => exact fun _ => rfl
  | cons first rest ih =>
      intro scopes
      rw [steps, Engine.run_append, engine_move, ih]
      rfl

end Steps

section Accounts

variable {α φ μ M : Type} [ExactNumber α] [MetricFactory φ] [MetricPlugin φ μ α] [AddCommMonoid M]

theorem acceptedIn_begin (engine : Engine α φ μ) (key : String) :
    engine.acceptedIn [.increment (ScopedTimer.inFlight key) 1] =
      [.count (ScopedTimer.inFlight (Key.normalize key)) 1 1] := by
  simp only [Engine.acceptedIn, Engine.accepted, ScopedTimer.directKey_inFlight]
  rfl

theorem acceptedIn_finish (engine : Engine α φ μ) (timer : ScopedTimer) :
    engine.acceptedIn (finishSteps engine timer) =
      let key := Key.normalize timer.key
      .count (ScopedTimer.inFlight key) (-1) 1 ::
        (if key = "" then [] else [.duration key ((timer.elapsed engine).milliseconds α)]) ++
        [.count (ScopedTimer.outcome key timer.succeeded) 1 1] := by
  by_cases unnamed : Key.normalize timer.key = ""
  · simp only [finishSteps, Engine.acceptedIn, Engine.accepted, ScopedTimer.directKey_inFlight,
      ScopedTimer.directKey_outcome, Engine.directKey_of_unnamed unnamed, unnamed, if_true]
    rfl
  · simp only [finishSteps, Engine.acceptedIn, Engine.accepted, ScopedTimer.directKey_inFlight,
      ScopedTimer.directKey_outcome, Engine.directKey_of_named unnamed, unnamed, if_false]
    rfl

theorem countP_modify_mark (p : Scope → Bool) (kept : ∀ scope : Scope, p scope.mark = p scope) :
    ∀ (scopes : List Scope) (index : Nat), (scopes.modify index Scope.mark).countP p = scopes.countP p := by
  intro scopes
  induction scopes with
  | nil => exact fun _ => by rw [List.modify_nil]
  | cons first rest ih =>
      intro index
      cases index with
      | zero => simp [List.countP_cons, kept]
      | succ later => simp [List.countP_cons, ih]

theorem countP_eraseIdx (p : Scope → Bool) {scopes : List Scope} {index : Nat} {scope : Scope}
    (found : scopes[index]? = some scope) :
    scopes.countP p = (scopes.eraseIdx index).countP p + if p scope then 1 else 0 := by
  obtain ⟨bound, rfl⟩ := List.getElem?_eq_some_iff.mp found
  rw [← (List.getElem_cons_eraseIdx_perm bound).countP_eq, List.countP_cons]

/-- The number of scopes that are live under a key. -/
def inFlight (key : String) (scopes : Scopes α φ μ) : Nat := scopes.live.countP fun scope => scope.key = key

/-- The number of scopes that have ended under a key. -/
def finished (key : String) (scopes : Scopes α φ μ) : Nat := scopes.ended.countP fun scope => scope.key = key

/-- The number of scopes that have ended under a key with an outcome. -/
def outcomes (key : String) (succeeded : Bool) (scopes : Scopes α φ μ) : Nat :=
  scopes.ended.countP fun scope => scope.key = key && scope.isMarked = succeeded

/-- A level that the scopes stand at moves by what their own updates gain, and by nothing else. -/
structure Account (level : Scopes α φ μ → M) (gain : List (Update α) → M) : Prop where
  nil : gain [] = 0
  append (first second : List (Update α)) : gain (first ++ second) = gain first + gain second
  begins (scopes : Scopes α φ μ) (raw : String) :
    level (scopes.move (.begin raw)) =
      level scopes + gain (scopes.engine.acceptedIn [.increment (ScopedTimer.inFlight raw) 1])
  succeeds (scopes : Scopes α φ μ) (index : Nat) : level (scopes.move (.succeed index)) = level scopes
  finishes {scopes : Scopes α φ μ} {index : Nat} {scope : Scope} :
    scopes.live[index]? = some scope →
      level (scopes.move (.finish index)) =
        level scopes + gain (scopes.engine.acceptedIn (finishSteps scopes.engine scope.timer))
  steps (scopes : Scopes α φ μ) (step : Step α) : level (scopes.move (.step step)) = level scopes

section Levels

variable {level : Scopes α φ μ → M} {gain : List (Update α) → M}

theorem Account.move (account : Account level gain) (scopes : Scopes α φ μ) (move : ScopeMove α) :
    level (scopes.move move) + gain (scopes.othersOf move) =
      level scopes + gain (scopes.engine.acceptedIn (scopes.stepsOf move)) := by
  cases move with
  | begin raw => rw [account.begins, othersOf, account.nil, add_zero, stepsOf]
  | succeed index => rw [account.succeeds, othersOf, stepsOf, Engine.acceptedIn]
  | finish index =>
      rw [othersOf, account.nil, add_zero, stepsOf]
      cases found : scopes.live[index]? with
      | none => simp [Scopes.move, found, Engine.acceptedIn, account.nil]
      | some scope => rw [account.finishes found, Option.toList_some, List.flatMap_singleton]
  | step step => rw [account.steps, othersOf, stepsOf, Engine.acceptedIn, Engine.acceptedIn, List.append_nil]

/-- Over a run, the level moves by the gain of all updates that are accepted, less those of others. -/
theorem Account.run (account : Account level gain) (moves : List (ScopeMove α)) : ∀ scopes : Scopes α φ μ,
    level (scopes.run moves) + gain (scopes.others moves) =
      level scopes + gain (scopes.engine.acceptedIn (scopes.steps moves)) := by
  induction moves with
  | nil => exact fun _ => rfl
  | cons first rest ih =>
      intro scopes
      have now := account.move scopes first
      have later := ih (scopes.move first)
      change level ((scopes.move first).run rest) + _ = _
      rw [others, Scopes.steps, Engine.acceptedIn_append, engine_move, account.append, account.append, ← add_assoc,
        add_right_comm, later, add_right_comm, now, add_assoc]

theorem Account.run_new (account : Account level gain) (engine : Engine α φ μ) (moves : List (ScopeMove α))
    (nothing : level (new engine) = 0) :
    level ((new engine).run moves) + gain ((new engine).others moves) =
      gain (engine.acceptedIn ((new engine).steps moves)) := by
  rw [account.run, nothing, zero_add]
  rfl

end Levels

section Counts

theorem sum_countFor_begin (engine : Engine α φ μ) (raw counter : String) :
    ((engine.acceptedIn [.increment (ScopedTimer.inFlight raw) 1]).map (Update.countFor counter)).sum =
      if ScopedTimer.inFlight (Key.normalize raw) = counter then 1 else 0 := by
  rw [acceptedIn_begin]
  simp [Update.countFor]

theorem sum_countFor_finish (engine : Engine α φ μ) (scope : Scope) (counter : String) :
    ((engine.acceptedIn (finishSteps engine scope.timer)).map (Update.countFor counter)).sum =
      (if ScopedTimer.inFlight scope.key = counter then -1 else 0) +
        if ScopedTimer.outcome scope.key scope.isMarked = counter then 1 else 0 := by
  rw [acceptedIn_finish, scope.succeeded]
  by_cases unnamed : Key.normalize scope.timer.key = ""
  · simp [unnamed, Update.countFor, Scope.key, Scope.isMarked]
  · simp [unnamed, Update.countFor, Scope.key, Scope.isMarked]
    rfl

theorem countP_durations_finish (engine : Engine α φ μ) (scope : Scope) {key : String} (named : key ≠ "") :
    (engine.acceptedIn (finishSteps engine scope.timer)).countP (Update.isDurationFor key) =
      if scope.key = key then 1 else 0 := by
  rw [acceptedIn_finish]
  by_cases own : scope.key = key
  · have given : Key.normalize scope.timer.key = key := own
    simp [given, own, named, Update.isDurationFor, Update.target]
  · have other : ¬Key.normalize scope.timer.key = key := own
    by_cases unnamed : Key.normalize scope.timer.key = ""
    · simp [unnamed, own, Update.isDurationFor, Update.target]
    · simp [unnamed, own, other, Update.isDurationFor, Update.target]

theorem countP_append_singleton (p : Scope → Bool) (scopes : List Scope) (scope : Scope) :
    (scopes ++ [scope]).countP p = scopes.countP p + if p scope then 1 else 0 := by
  rw [List.countP_append, List.countP_singleton]

theorem inFlight_account (key : String) :
    Account (fun scopes : Scopes α φ μ => (scopes.inFlight key : α))
      fun updates => (updates.map (Update.countFor (ScopedTimer.inFlight key))).sum where
  nil := rfl
  append first second := by rw [List.map_append, List.sum_append]
  begins scopes raw := by
    rw [sum_countFor_begin, inFlight, Scopes.move, countP_append_singleton]
    by_cases own : Key.normalize raw = key
    · simp [own, Scope.key, ScopedTimer.begin, inFlight]
    · simp [own, Scope.key, ScopedTimer.begin, inFlight, ScopedTimer.inFlight_inj]
  succeeds scopes index := by
    rw [inFlight, Scopes.move, countP_modify_mark _ fun _ => rfl]
    rfl
  finishes := by
    intro scopes index scope found
    rw [sum_countFor_finish, inFlight, inFlight, countP_eraseIdx _ found]
    by_cases own : scope.key = key
    · simp [own, Scopes.move, found, ScopedTimer.outcome_ne_inFlight]
    · simp [own, Scopes.move, found, ScopedTimer.inFlight_inj, ScopedTimer.outcome_ne_inFlight]
  steps _ _ := rfl

theorem outcomes_account (key : String) (succeeded : Bool) :
    Account (fun scopes : Scopes α φ μ => (scopes.outcomes key succeeded : α))
      fun updates => (updates.map (Update.countFor (ScopedTimer.outcome key succeeded))).sum where
  nil := rfl
  append first second := by rw [List.map_append, List.sum_append]
  begins scopes raw := by
    rw [sum_countFor_begin, if_neg (ScopedTimer.outcome_ne_inFlight _ _ _).symm]
    exact (add_zero _).symm
  succeeds _ _ := rfl
  finishes := by
    intro scopes index scope found
    rw [sum_countFor_finish, if_neg (ScopedTimer.outcome_ne_inFlight _ _ _).symm, zero_add, outcomes, Scopes.move]
    simp only [found, countP_append_singleton]
    by_cases own : scope.key = key ∧ scope.isMarked = succeeded
    · simp [own, outcomes]
    · simp [own, outcomes, ScopedTimer.outcome_inj]
  steps _ _ := rfl

theorem finished_account {key : String} (named : key ≠ "") :
    Account (finished (α := α) (φ := φ) (μ := μ) key) fun updates => updates.countP (Update.isDurationFor key) where
  nil := rfl
  append _ _ := List.countP_append
  begins scopes raw := by
    rw [acceptedIn_begin]
    rfl
  succeeds _ _ := rfl
  finishes := by
    intro scopes index scope found
    rw [countP_durations_finish _ _ named, finished, Scopes.move]
    simp [found, finished]
  steps _ _ := rfl

end Counts

section Drops

omit [MetricFactory φ] [MetricPlugin φ μ α] in
theorem pendingCount_updateCounter (engine : Engine α φ μ) (name : String) (value : α) (counter : String) :
    (engine.updateCounter name value 1).pendingCount counter =
      engine.pendingCount counter + if counter = name then value else 0 := by
  rw [Engine.pendingCount, Engine.pendingCount]
  by_cases own : counter = name
  · subst own
    rw [Engine.counters_updateCounter]
    cases engine.counters.find? counter with
    | none => simp [Counter.update, Counter.zero]
    | some old => simp [Counter.update]
  · rw [Engine.updateCounter, Table.find?_upsert, if_neg own, if_neg own, add_zero]

/-- A scope begins: it is in flight, and nothing else is changed. -/
structure Begun (before after : Engine α φ μ) (key : String) : Prop where
  counters (counter : String) :
    after.pendingCount counter = before.pendingCount counter + if counter = ScopedTimer.inFlight key then 1 else 0
  timers : after.timers = before.timers
  badLines : after.badLines = before.badLines

/-- A scope ends: it is in flight no more, its outcome is counted, and a duration that is not negative is
recorded or, under no key, discarded. -/
structure Dropped (before after : Engine α φ μ) (key : String) (succeeded : Bool) : Prop where
  counters (counter : String) :
    after.pendingCount counter = before.pendingCount counter +
      ((if counter = ScopedTimer.inFlight key then -1 else 0) +
        if counter = ScopedTimer.outcome key succeeded then 1 else 0)
  recorded : key ≠ "" → after.badLines = before.badLines ∧
    ∃ duration : α, 0 ≤ duration ∧ after.timers = (before.updateTimer key duration).timers
  discarded : key = "" → after.badLines = before.badLines + 1 ∧ after.timers = before.timers

omit [MetricFactory φ] [MetricPlugin φ μ α] in
theorem begun_begin (engine : Engine α φ μ) (raw : String) :
    Begun engine (ScopedTimer.begin engine raw).2 (Key.normalize raw) := by
  rw [ScopedTimer.begin_eq]
  exact ⟨pendingCount_updateCounter engine _ 1, rfl, rfl⟩

omit [MetricFactory φ] [MetricPlugin φ μ α] in
theorem dropped_finish (engine : Engine α φ μ) (scope : Scope) :
    Dropped engine (scope.timer.finish engine) scope.key scope.isMarked := by
  have outcome : ScopedTimer.outcome scope.key scope.isMarked =
      ScopedTimer.outcome (Key.normalize scope.timer.key) scope.timer.succeeded := by
    rw [scope.succeeded]
    rfl
  have counted (recorded : Engine α φ μ) (counter : String) (kept : recorded.pendingCount counter =
      (engine.updateCounter (ScopedTimer.inFlight scope.key) (-1) 1).pendingCount counter) :
      (recorded.updateCounter (ScopedTimer.outcome scope.key scope.isMarked) 1 1).pendingCount counter =
        engine.pendingCount counter + ((if counter = ScopedTimer.inFlight scope.key then -1 else 0) +
          if counter = ScopedTimer.outcome scope.key scope.isMarked then 1 else 0) := by
    rw [pendingCount_updateCounter, kept, pendingCount_updateCounter, add_assoc]
  rw [ScopedTimer.finish_eq]
  dsimp only
  rw [← outcome]
  by_cases unnamed : Key.normalize scope.timer.key = ""
  · rw [if_pos unnamed]
    exact ⟨fun counter => counted _ counter rfl, fun named => absurd unnamed named, fun _ => ⟨rfl, rfl⟩⟩
  · rw [if_neg unnamed]
    exact ⟨fun counter => counted _ counter rfl,
      fun _ => ⟨rfl, _, (scope.timer.elapsed engine).milliseconds_nonneg, rfl⟩, fun none => absurd none unnamed⟩

end Drops

section BadLines

theorem badLines_move (scopes : Scopes α φ μ) (move : ScopeMove α) :
    (scopes.move move).engine.badLines + scopes.finished "" =
      scopes.engine.badLines + (scopes.notesOf move).count .discarded + (scopes.move move).finished "" := by
  cases move with
  | begin raw =>
      have begun := (begun_begin scopes.engine raw).badLines
      rw [Scopes.move, begun]
      rfl
  | succeed index => rfl
  | finish index =>
      rw [notesOf, List.count_nil, add_zero, Scopes.move]
      cases found : scopes.live[index]? with
      | none => rfl
      | some scope =>
          have dropped := dropped_finish scopes.engine scope
          change (scope.timer.finish scopes.engine).badLines + scopes.finished "" =
            scopes.engine.badLines + (scopes.ended ++ [scope]).countP fun scope => scope.key = ""
          rw [countP_append_singleton, finished]
          by_cases unnamed : scope.key = ""
          · rw [(dropped.discarded unnamed).1, if_pos (decide_eq_true unnamed)]
            omega
          · rw [(dropped.recorded unnamed).1, if_neg (by simpa using unnamed), add_zero]
  | step step =>
      rw [Scopes.move, Engine.badLines_step]
      rfl

theorem badLines_run (moves : List (ScopeMove α)) : ∀ scopes : Scopes α φ μ,
    (scopes.run moves).engine.badLines + scopes.finished "" =
      scopes.engine.badLines + (scopes.notes moves).count .discarded + (scopes.run moves).finished "" := by
  induction moves with
  | nil => exact fun _ => rfl
  | cons first rest ih =>
      intro scopes
      have now := scopes.badLines_move first
      have later := ih (scopes.move first)
      change ((scopes.move first).run rest).engine.badLines + _ = _ + ((scopes.move first).run rest).finished ""
      rw [notes, List.count_append]
      omega

end BadLines

end Accounts

section Runs

variable {α φ μ : Type} [ExactNumber α] [MetricFactory φ] [MetricPlugin φ μ α]

/-- However scopes begin, are said to have succeeded and end while an engine takes any other steps: the counter
of the work in flight under a key comes to the number of live scopes, and the counters of the outcomes to the
number of those that have ended so, if no other update is for these counters. Every end counts one outcome and
records a duration that is not negative, or discards it where there is no key, and nothing else that scopes do
is discarded. -/
theorem scopes_accounted (settings : Settings) (chance : Chance α) (plugins : Registry φ) (now : α)
    (moves : List (ScopeMove α)) (key : String) :
    let fresh : Engine α φ μ := .new settings chance plugins now
    let scopes := (new fresh).run moves
    let steps := (new fresh).steps moves
    let others := (new fresh).others moves
    let reported (kind : MetricKind) (name : String) : α :=
      ((fresh.attributedReports steps).flatMap (reportedOf ⟨kind, name, "count"⟩)).sum
    (fresh.attributedReports steps).map (List.map Attributed.point) = (fresh.run steps).1 ∧
      (fresh.run steps).2 = scopes.engine ∧
      ((∀ update ∈ others, update.target ≠ (.counter, ScopedTimer.inFlight key)) →
        reported .counter (ScopedTimer.inFlight key) +
          scopes.engine.pendingCount (ScopedTimer.inFlight key) = scopes.inFlight key) ∧
      (∀ succeeded, (∀ update ∈ others, update.target ≠ (.counter, ScopedTimer.outcome key succeeded)) →
        reported .counter (ScopedTimer.outcome key succeeded) +
          scopes.engine.pendingCount (ScopedTimer.outcome key succeeded) = scopes.outcomes key succeeded) ∧
      (key ≠ "" → reported .timer key + scopes.engine.pendingDurations key =
        (scopes.finished key + others.countP (Update.isDurationFor key) : Nat)) ∧
      scopes.engine.badLines = ((new fresh).notes moves).count .discarded + scopes.finished "" ∧
      (∀ raw, Begun scopes.engine (scopes.move (.begin raw)).engine (Key.normalize raw)) ∧
      (∀ index, (scopes.move (.succeed index)).engine = scopes.engine) ∧
      ∀ index scope, scopes.live[index]? = some scope →
        Dropped scopes.engine (scopes.move (.finish index)).engine scope.key scope.isMarked := by
  intro fresh scopes steps others reported
  have final : (fresh.run steps).2 = scopes.engine := engine_run moves (new fresh)
  have counted (counter : String) : reported .counter counter + scopes.engine.pendingCount counter =
      ((fresh.acceptedIn steps).map (Update.countFor counter)).sum := by
    rw [← final]
    simp only [reported]
    rw [Engine.sum_reported]
    exact (Engine.counter_balanced counter).run_of_nothing steps fresh trivial rfl
  have silent {counter : String} (unaddressed : ∀ update ∈ others, update.target ≠ (.counter, counter)) :
      (others.map (Update.countFor counter)).sum = (0 : α) := by
    apply List.sum_eq_zero
    intro count member
    obtain ⟨update, other, rfl⟩ := List.mem_map.mp member
    exact (Engine.counter_balanced (φ := φ) (μ := μ) counter).others (unaddressed update other)
  refine ⟨Engine.map_point_attributedReports steps fresh, final, ?_, ?_, ?_, ?_, ?_, fun _ => rfl, ?_⟩
  · intro unaddressed
    have account := (inFlight_account key).run_new fresh moves Nat.cast_zero
    rw [silent unaddressed, add_zero] at account
    rw [counted]
    exact account.symm
  · intro succeeded unaddressed
    have account := (outcomes_account key succeeded).run_new fresh moves Nat.cast_zero
    rw [silent unaddressed, add_zero] at account
    rw [counted]
    exact account.symm
  · intro named
    have account := (finished_account named).run_new fresh moves rfl
    rw [account, ← Engine.sum_map_ite_eq_countP, ← final]
    simp only [reported]
    rw [Engine.sum_reported]
    exact (Engine.timer_balanced key).run_of_nothing steps fresh trivial Nat.cast_zero
  · have account := badLines_run moves (new fresh)
    exact account.trans (congrArg (· + _) (Nat.zero_add _))
  · exact begun_begin scopes.engine
  · intro index scope found
    simp only [Scopes.move, found]
    exact dropped_finish scopes.engine scope

/-- Two ways to write one key, under which one scope has ended and one is still live after a flush. -/
theorem scopes_accounted_of_query :
    let fresh : Engine ℝ Empty Empty := .new .default (.ofSeed 0) .empty 0
    let moves : List (ScopeMove ℝ) :=
      [.begin "db query", .begin "db|\t\tquery", .succeed 0, .step (.flush (.ofSeconds 10) 90), .finish 0,
        .step (.increment "db_query" 3)]
    let scopes := (new fresh).run moves
    let others := (new fresh).others moves
    let reported (name : String) : ℝ :=
      ((fresh.attributedReports ((new fresh).steps moves)).flatMap (reportedOf ⟨.counter, name, "count"⟩)).sum
    (∀ update ∈ others, update.target ≠ (.counter, "db_query.in_flight")) ∧
      (∀ update ∈ others, update.target ≠ (.counter, "db_query.success")) ∧
      reported "db_query.in_flight" + scopes.engine.pendingCount "db_query.in_flight" = 1 ∧
      reported "db_query.success" + scopes.engine.pendingCount "db_query.success" = 1 := by
  intro fresh moves scopes others reported
  have named : Key.normalize "db_query" = "db_query" := by decide
  have direct : Engine.directKey "db_query" (3 : ℝ) = .ok "db_query" := by
    rw [Engine.directKey_of_named (by rw [named]; decide), named]
  have given : others = [.count "db_query" 3 1] := by
    simp [others, moves, Scopes.others, othersOf, Engine.accepted, direct, Except.toOption]
  have spaced : Key.normalize "db query" = "db_query" := by decide
  have tabbed : Key.normalize "db|\t\tquery" = "db_query" := by decide
  have live : scopes.inFlight "db_query" = 1 := by
    simp [scopes, moves, Scopes.inFlight, Scopes.run, Scopes.move, new, Scope.key, ScopedTimer.begin, tabbed]
  have succeeded : scopes.outcomes "db_query" true = 1 := by
    simp [scopes, moves, Scopes.outcomes, Scopes.run, Scopes.move, new, Scope.key, ScopedTimer.begin, spaced,
      Scope.mark, Scope.isMarked, ScopedTimer.succeed]
  have unaddressed {counter : String} (other : counter ≠ "db_query") :
      ∀ update ∈ others, update.target ≠ (.counter, counter) := by
    intro update member
    rw [given, List.mem_singleton] at member
    subst member
    simpa [Update.target] using other.symm
  obtain ⟨_, _, inFlight, outcomes, _⟩ :=
    scopes_accounted (φ := Empty) (μ := Empty) .default (.ofSeed 0) .empty (0 : ℝ) moves "db_query"
  refine ⟨unaddressed (by decide), unaddressed (by decide), ?_, ?_⟩
  · refine (inFlight (unaddressed (by decide))).trans ?_
    rw [live, Nat.cast_one]
  · refine (outcomes true (unaddressed (by decide))).trans ?_
    rw [succeeded, Nat.cast_one]

end Runs

end Scopes

end MetricAggregation
