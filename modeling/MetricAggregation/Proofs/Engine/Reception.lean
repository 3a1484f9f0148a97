import MetricAggregation.Proofs.Engine.Update

/-!
What an engine notes of the messages and updates that it is given: the tag of each message that it accepts,
and that it discards what it does not accept. Its statistics are the numbers of these notes.
-/

namespace MetricAggregation

/-- Something that an engine notes of its own work. -/
inductive Note where
  | received (tag : String)
  | discarded
deriving DecidableEq

namespace Engine

variable {α φ μ : Type}

def receivedCount (engine : Engine α φ μ) (tag : String) : Option Nat :=
  (engine.received.find? tag).map Tally.count

/-- A number that is there if anything was counted, after some more was. -/
def raised (count? : Option Nat) (further : Nat) : Option Nat :=
  if further = 0 then count? else some (count?.getD 0 + further)

theorem raised_raised (count? : Option Nat) (first second : Nat) :
    raised (raised count? first) second = raised count? (first + second) := by
  unfold raised
  by_cases none : second = 0
  · simp [none]
  · by_cases before : first = 0
    · simp [before]
    · simp [before, none, Nat.add_assoc]

/-- The statistics of an engine went on from those before by just these notes. -/
structure Records (before after : Engine α φ μ) (notes : List Note) : Prop where
  badLines : after.badLines = before.badLines + notes.count .discarded
  received (tag : String) :
    after.receivedCount tag = raised (before.receivedCount tag) (notes.count (.received tag))

theorem Records.of_same {before after : Engine α φ μ} (badLines : after.badLines = before.badLines)
    (received : after.received = before.received) : Records before after [] where
  badLines := badLines
  received tag := congrArg (fun stats => (ReceiveStats.find? stats tag).map Tally.count) received

theorem Records.trans {before middle after : Engine α φ μ} {first second : List Note}
    (earlier : Records before middle first) (later : Records middle after second) :
    Records before after (first ++ second) where
  badLines := by rw [later.badLines, earlier.badLines, List.count_append, Nat.add_assoc]
  received tag := by rw [later.received, earlier.received, raised_raised, List.count_append]

theorem records_discard (engine : Engine α φ μ) : Records engine engine.discard [.discarded] where
  badLines := rfl
  received _ := rfl

theorem find?_record (stats : ReceiveStats) (tag : String) (nanoseconds : Nat) (other : String) :
    ((stats.record tag nanoseconds).find? other).map Tally.count =
      raised ((stats.find? other).map Tally.count) (if other = tag then 1 else 0) := by
  unfold ReceiveStats.find? ReceiveStats.record
  rw [Table.find?_upsert]
  by_cases own : other = tag
  · subst other
    simp only [if_true]
    cases stats.byTag.find? tag with
    | none => rfl
    | some tally => rfl
  · simp [own, raised]

variable [Number α] [MetricFactory φ] [MetricPlugin φ μ α]

def noteOf (engine : Engine α φ μ) (bytes : List UInt8) : Note :=
  match readMessage bytes with
  | .error _ => .discarded
  | .ok message =>
    match (engine.apply message).value with
    | .ok _ => .received message.fields.tag
    | .error _ => .discarded

def notesOf (engine : Engine α φ μ) : List (List UInt8) → List Note
  | [] => []
  | bytes :: rest => engine.noteOf bytes :: (engine.process bytes).notesOf rest

def noteOfKey (key : Except MessageError String) : List Note :=
  match key with
  | .ok _ => []
  | .error _ => [.discarded]

/-- What an engine notes in a step. Direct updates have no tag, so only those that are discarded are
noted. -/
def notes (engine : Engine α φ μ) : Step α → List Note
  | .message bytes => [engine.noteOf bytes]
  | .packet bytes => engine.notesOf (packetLines bytes)
  | .increment key value => noteOfKey (directKey key value)
  | .timing key duration => noteOfKey (directKey key duration)
  | .tick => []
  | .flush _ _ => []
  | .setWallClock _ => []
  | .setStopwatch _ => []

theorem records_process (engine : Engine α φ μ) (bytes : List UInt8) :
    Records engine (engine.process bytes) [engine.noteOf bytes] := by
  unfold process noteOf
  cases readMessage bytes with
  | error _ => exact records_discard engine
  | ok message =>
      cases applied : (engine.apply message).value with
      | error _ =>
          simp only [applied]
          exact ⟨rfl, fun _ => rfl⟩
      | ok updated =>
          dsimp only
          rw [applied]
          obtain ⟨_, _, takes⟩ := takes_of_apply applied
          have badLines : updated.badLines = engine.badLines := by cases takes <;> rfl
          have received : updated.received = engine.received := by cases takes <;> rfl
          refine ⟨badLines, fun tag => ?_⟩
          refine (find?_record updated.received _ _ tag).trans ?_
          rw [received, List.count_singleton]
          by_cases own : tag = message.fields.tag
          · subst own
            simp [receivedCount]
          · simp [receivedCount, own, Ne.symm own]

theorem records_lines (lines : List (List UInt8)) : ∀ engine : Engine α φ μ,
    Records engine (lines.foldl process engine) (engine.notesOf lines) := by
  induction lines with
  | nil => exact fun engine => .of_same rfl rfl
  | cons bytes rest ih =>
      intro engine
      exact (engine.records_process bytes).trans (ih (engine.process bytes))

theorem records_step (engine : Engine α φ μ) (step : Step α)
    (unflushed : ∀ interval percent, step ≠ .flush interval percent) :
    Records engine (engine.step step).2 (engine.notes step) := by
  cases step with
  | message bytes => exact engine.records_process bytes
  | packet bytes => exact records_lines (packetLines bytes) engine
  | increment key value =>
      simp only [Engine.step, increment, notes]
      cases directKey key value with
      | ok name => exact .of_same rfl rfl
      | error _ => exact records_discard engine
  | timing key duration =>
      simp only [Engine.step, recordTiming, notes]
      cases directKey key duration with
      | ok name => exact .of_same rfl rfl
      | error _ => exact records_discard engine
  | flush interval percent => exact absurd rfl (unflushed interval percent)
  | tick | setWallClock | setStopwatch => exact .of_same rfl rfl

theorem badLines_step (engine : Engine α φ μ) (step : Step α) :
    (engine.step step).2.badLines = engine.badLines + (engine.notes step).count .discarded := by
  by_cases flush : ∃ interval percent, step = .flush interval percent
  · obtain ⟨interval, percent, rfl⟩ := flush
    rfl
  · exact (engine.records_step step fun interval percent same => flush ⟨interval, percent, same⟩).badLines

/-- The notes since the last flush of a run. -/
def notesSince (engine : Engine α φ μ) (noted : List Note) (steps : List (Step α)) : List Note :=
  engine.since notes noted steps

theorem receivedCount_run (steps : List (Step α)) : ∀ (engine : Engine α φ μ) (noted : List Note),
    (∀ tag, engine.receivedCount tag = raised none (noted.count (.received tag))) →
      ∀ tag, (engine.run steps).2.receivedCount tag =
        raised none ((engine.notesSince noted steps).count (.received tag)) := by
  refine since_run (fun _ _ _ _ => rfl) (fun engine noted step unflushed counted tag => ?_) steps
  rw [(engine.records_step step unflushed).received, counted, raised_raised, List.count_append]

end Engine

end MetricAggregation
