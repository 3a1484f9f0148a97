import MetricAggregation.Engine.Run
import MetricAggregation.Proofs.Outcome

/-!
The updates that an engine takes in, and what each of them does to its metrics. A message, a packet and a
direct update come down to the same five changes, and what is refused changes no metric.
-/

namespace MetricAggregation

/-- A change of one metric. -/
inductive Update (α : Type) where
  | count (key : String) (value rate : α)
  | duration (key : String) (value : α)
  | gauge (key : String) (value : α)
  | events (key : String) (number : α)
  | further (tag key : String) (fields : Fields)

namespace Update

variable {α : Type}

def target : Update α → MetricKind × String
  | count key _ _ => (.counter, key)
  | duration key _ => (.timer, key)
  | gauge key _ => (.gauge, key)
  | events key _ => (.meter, key)
  | further tag key _ => (.extension tag, key)

/-- The value that waits for the next flush after an update, with its key. -/
def waiting? : Update α → Option (String × α)
  | gauge key value => some (key, value)
  | _ => none

/-- The update that a message asks for. Metrics of further types read the fields themselves. -/
def ofMessage [Number α] (message : Message) : Except MessageError (Update α) :=
  let value := message.fields.value
  match message.kind with
  | .counter => do
      let value ← parseValue value
      let rate ← Engine.sampleRate message.fields.extra
      return count message.key value rate
  | .timer => (parseValue value).map (duration message.key)
  | .gauge => (parseSingleValue value).map (gauge message.key)
  | .meter => (parseSingleValue value).map (events message.key)
  | .extension tag => .ok (further tag message.key message.fields)

theorem target_ofMessage [Number α] {message : Message} {update : Update α}
    (asked : ofMessage message = .ok update) : update.target = (message.kind, message.key) := by
  unfold ofMessage at asked
  generalize message.kind = kind at asked
  cases kind with
  | counter =>
      simp only [Except.bind_eq_ok_iff, Except.pure_eq_ok_iff] at asked
      obtain ⟨_, _, _, _, rfl⟩ := asked
      rfl
  | timer | gauge | meter =>
      obtain ⟨_, _, rfl⟩ := Except.map_eq_ok_iff.mp asked
      rfl
  | extension tag =>
      cases asked
      rfl

end Update

namespace Engine

variable {α φ μ : Type} [Number α] [MetricFactory φ] [MetricPlugin φ μ α]

/-- What an engine becomes by an update that it takes in. -/
inductive Takes (engine : Engine α φ μ) : Update α → Engine α φ μ → Prop
  | count (key : String) (value rate : α) :
      Takes engine (.count key value rate) (engine.updateCounter key value rate)
  | duration (key : String) (value : α) :
      Takes engine (.duration key value) (engine.updateTimer key value)
  | gauge (key : String) (value : α) : Takes engine (.gauge key value) (engine.pushGauge key value)
  | events (key : String) (number : α) :
      Takes engine (.events key number) (engine.markMeter key number)
  | further {tag key : String} {fields : Fields} {metric changed : μ}
      (found : engine.extensionFor tag key = .ok metric)
      (processed : (MetricPlugin.process φ metric engine.wallClock fields).value = .ok changed) :
      Takes engine (.further tag key fields) (engine.putExtension tag key changed)

/-- An engine without the record of its own work. -/
def bare (engine : Engine α φ μ) : Engine α φ μ :=
  { engine with received := .empty, badLines := 0, stopwatch := .zero }

/-- Whether a message is accepted: it can be read, and its metric takes it in. -/
def Accepts (engine : Engine α φ μ) (bytes : List UInt8) : Prop :=
  ∃ message updated, readMessage bytes = .ok message ∧ (engine.apply message).value = .ok updated

def taken? (engine : Engine α φ μ) (bytes : List UInt8) : Option (Update α) :=
  match readMessage bytes with
  | .error _ => none
  | .ok message =>
    match (engine.apply message).value with
    | .ok _ => (Update.ofMessage message).toOption
    | .error _ => none

def takenAll (engine : Engine α φ μ) : List (List UInt8) → List (Update α)
  | [] => []
  | bytes :: rest => (engine.taken? bytes).toList ++ (engine.process bytes).takenAll rest

/-- The updates that are accepted in a step. -/
def accepted (engine : Engine α φ μ) : Step α → List (Update α)
  | .message bytes => (engine.taken? bytes).toList
  | .packet bytes => engine.takenAll (packetLines bytes)
  | .increment key value => (directKey key value).toOption.toList.map fun key => .count key value 1
  | .timing key duration => (directKey key duration).toOption.toList.map fun key => .duration key duration
  | .tick => []
  | .flush _ _ => []
  | .setWallClock _ => []
  | .setStopwatch _ => []

def acceptedIn (engine : Engine α φ μ) : List (Step α) → List (Update α)
  | [] => []
  | first :: rest => engine.accepted first ++ (engine.step first).2.acceptedIn rest

/-- What is collected from the steps since the last flush of a run, or what was there before the run and all of
it if there is none. -/
def since {β : Type} (engine : Engine α φ μ) (collect : Engine α φ μ → Step α → List β) (before : List β) :
    List (Step α) → List β
  | [] => before
  | .flush interval percent :: rest => (engine.flush interval percent).2.since collect [] rest
  | first :: rest => (engine.step first).2.since collect (before ++ collect engine first) rest

/-- The updates accepted since the last flush of a run. -/
def acceptedSince (engine : Engine α φ μ) (before : List (Update α)) (steps : List (Step α)) : List (Update α) :=
  engine.since accepted before steps

/-- A flush makes a fact hold of nothing, and every other step keeps it with what is collected from the step:
then it holds, after any run, of what was collected since the last flush. -/
theorem since_run {β : Type} {collect : Engine α φ μ → Step α → List β} {holds : Engine α φ μ → List β → Prop}
    (flushed : ∀ (engine : Engine α φ μ) interval percent, holds (engine.flush interval percent).2 [])
    (kept : ∀ engine before step, (∀ interval percent, step ≠ .flush interval percent) →
      holds engine before → holds (engine.step step).2 (before ++ collect engine step))
    (steps : List (Step α)) : ∀ engine before, holds engine before →
      holds (engine.run steps).2 (engine.since collect before steps) := by
  induction steps with
  | nil => exact fun _ _ held => held
  | cons first rest ih =>
      intro engine before held
      -- What is there before the run is general, as a flush makes the rest of it start over from nothing.
      have others (unflushed : ∀ interval percent, first ≠ .flush interval percent) :
          holds (engine.step first).2 (before ++ collect engine first) := kept engine before first unflushed held
      cases first with
      | flush interval percent => exact ih _ [] (flushed engine interval percent)
      | message | packet | increment | timing | tick | setWallClock | setStopwatch =>
          exact ih _ _ (others nofun)

theorem Takes.unique {engine left right : Engine α φ μ} {update : Update α}
    (first : engine.Takes update left) (second : engine.Takes update right) : left = right := by
  cases first with
  | count | duration | gauge | events =>
      cases second
      rfl
  | further found processed =>
      cases second with
      | further otherFound otherProcessed =>
          rw [found, Except.ok.injEq] at otherFound
          subst otherFound
          rw [processed, Except.ok.injEq] at otherProcessed
          rw [otherProcessed]

theorem takes_of_apply {engine updated : Engine α φ μ} {message : Message}
    (applied : (engine.apply message).value = .ok updated) :
    ∃ update, Update.ofMessage message = .ok update ∧ engine.Takes update updated := by
  unfold apply at applied
  unfold Update.ofMessage
  generalize message.kind = kind at applied
  cases kind with
  | counter =>
      simp only [Except.bind_eq_ok_iff, Except.pure_eq_ok_iff] at applied
      obtain ⟨value, valueRead, rate, rateRead, rfl⟩ := applied
      refine ⟨.count message.key value rate, ?_, .count _ _ _⟩
      simp only [Except.bind_eq_ok_iff, Except.pure_eq_ok_iff]
      exact ⟨value, valueRead, rate, rateRead, rfl⟩
  | timer =>
      obtain ⟨value, read, rfl⟩ := Except.map_eq_ok_iff.mp applied
      exact ⟨_, Except.map_eq_ok_iff.mpr ⟨value, read, rfl⟩, .duration _ _⟩
  | gauge =>
      obtain ⟨value, read, rfl⟩ := Except.map_eq_ok_iff.mp applied
      exact ⟨_, Except.map_eq_ok_iff.mpr ⟨value, read, rfl⟩, .gauge _ _⟩
  | meter =>
      obtain ⟨number, read, rfl⟩ := Except.map_eq_ok_iff.mp applied
      exact ⟨_, Except.map_eq_ok_iff.mpr ⟨number, read, rfl⟩, .events _ _⟩
  | extension tag =>
      simp only [applyExtension] at applied
      cases found : engine.extensionFor tag message.key with
      | error _ => simp [found] at applied
      | ok metric =>
          simp only [found] at applied
          obtain ⟨changed, processed, rfl⟩ := Except.map_eq_ok_iff.mp applied
          exact ⟨_, rfl, .further found processed⟩

theorem apply_of_takes {engine updated : Engine α φ μ} {message : Message} {update : Update α}
    (asked : Update.ofMessage message = .ok update) (takes : engine.Takes update updated) :
    (engine.apply message).value = .ok updated := by
  unfold Update.ofMessage at asked
  unfold apply
  generalize message.kind = kind at asked
  cases kind with
  | counter =>
      simp only [Except.bind_eq_ok_iff, Except.pure_eq_ok_iff] at asked ⊢
      obtain ⟨value, valueRead, rate, rateRead, rfl⟩ := asked
      cases takes
      exact ⟨value, valueRead, rate, rateRead, rfl⟩
  | timer | gauge | meter =>
      obtain ⟨value, read, rfl⟩ := Except.map_eq_ok_iff.mp asked
      cases takes
      exact Except.map_eq_ok_iff.mpr ⟨value, read, rfl⟩
  | extension tag =>
      cases asked
      cases takes with
      | further found processed =>
          simp only [applyExtension, found]
          exact Except.map_eq_ok_iff.mpr ⟨_, processed, rfl⟩

theorem taken?_eq_some_iff {engine : Engine α φ μ} {bytes : List UInt8} {update : Update α} :
    engine.taken? bytes = some update ↔
      ∃ message updated, readMessage bytes = .ok message ∧ Update.ofMessage message = .ok update ∧
        engine.Takes update updated := by
  unfold taken?
  cases readMessage bytes with
  | error _ => simp
  | ok message =>
      cases applied : (engine.apply message).value with
      | error _ =>
          simp only [applied, reduceCtorEq, Except.ok.injEq, false_iff]
          rintro ⟨other, updated, rfl, asked, takes⟩
          simp [apply_of_takes asked takes] at applied
      | ok updated =>
          obtain ⟨asked, read, takes⟩ := takes_of_apply applied
          simp only [applied, read, Except.toOption, Option.some.injEq, Except.ok.injEq]
          constructor
          · rintro rfl
            exact ⟨message, updated, rfl, read, takes⟩
          · rintro ⟨other, _, rfl, same, _⟩
            rw [read, Except.ok.injEq] at same
            exact same

theorem taken?_isSome_iff {engine : Engine α φ μ} {bytes : List UInt8} :
    (engine.taken? bytes).isSome ↔ engine.Accepts bytes := by
  rw [Option.isSome_iff_exists]
  constructor
  · rintro ⟨update, taken⟩
    obtain ⟨message, updated, read, asked, takes⟩ := taken?_eq_some_iff.mp taken
    exact ⟨message, updated, read, apply_of_takes asked takes⟩
  · rintro ⟨message, updated, read, applied⟩
    obtain ⟨update, asked, takes⟩ := takes_of_apply applied
    exact ⟨update, taken?_eq_some_iff.mpr ⟨message, updated, read, asked, takes⟩⟩

theorem process_of_taken {engine : Engine α φ μ} {bytes : List UInt8} {update : Update α}
    (taken : engine.taken? bytes = some update) :
    ∃ after, engine.Takes update after ∧ (engine.process bytes).bare = after.bare := by
  obtain ⟨message, updated, read, asked, takes⟩ := taken?_eq_some_iff.mp taken
  refine ⟨updated, takes, ?_⟩
  simp only [process, read, apply_of_takes asked takes]
  rfl

theorem process_of_refused {engine : Engine α φ μ} {bytes : List UInt8}
    (refused : engine.taken? bytes = none) : (engine.process bytes).bare = engine.bare := by
  unfold process
  cases read : readMessage bytes with
  | error _ => rfl
  | ok message =>
      cases applied : (engine.apply message).value with
      | error _ => simp only [applied]; rfl
      | ok updated =>
          have accepted : (engine.taken? bytes).isSome :=
            taken?_isSome_iff.mpr ⟨message, updated, read, applied⟩
          simp [refused] at accepted

theorem wallClock_process (engine : Engine α φ μ) (bytes : List UInt8) :
    (engine.process bytes).wallClock = engine.wallClock := by
  cases taken : engine.taken? bytes with
  | none => exact congrArg (fun engine => engine.wallClock) (process_of_refused taken)
  | some update =>
      obtain ⟨after, takes, same⟩ := process_of_taken taken
      have clock : (engine.process bytes).wallClock = after.wallClock :=
        congrArg (fun engine => engine.wallClock) same
      rw [clock]
      cases takes <;> rfl

/-- An engine takes in updates one after another; of its own work it may note anything. -/
inductive Absorbs : Engine α φ μ → List (Update α) → Engine α φ μ → Prop
  | refl (engine : Engine α φ μ) : Absorbs engine [] engine
  | unseen {before middle after : Engine α φ μ} {updates : List (Update α)}
      (same : middle.bare = before.bare) (rest : Absorbs middle updates after) :
      Absorbs before updates after
  | take {before middle after : Engine α φ μ} {update : Update α} {updates : List (Update α)}
      (takes : before.Takes update middle) (rest : Absorbs middle updates after) :
      Absorbs before (update :: updates) after

theorem absorbs_takenAll (lines : List (List UInt8)) : ∀ engine : Engine α φ μ,
    engine.Absorbs (engine.takenAll lines) (lines.foldl process engine) := by
  induction lines with
  | nil => exact .refl
  | cons bytes rest ih =>
      intro engine
      have others := ih (engine.process bytes)
      cases taken : engine.taken? bytes with
      | none =>
          simp only [takenAll, taken, Option.toList_none, List.nil_append, List.foldl_cons]
          exact .unseen (process_of_refused taken) others
      | some update =>
          simp only [takenAll, taken, Option.toList_some, List.singleton_append, List.foldl_cons]
          obtain ⟨after, takes, same⟩ := process_of_taken taken
          exact .take takes (.unseen same others)

theorem absorbs_direct {engine after : Engine α φ μ} {key : Except MessageError String}
    {update : String → Update α}
    (takes : ∀ name, key = .ok name → engine.Takes (update name) after)
    (refused : ∀ error, key = .error error → after.bare = engine.bare) :
    engine.Absorbs (key.toOption.toList.map update) after := by
  cases key with
  | error error => exact .unseen (refused error rfl) (.refl after)
  | ok name => exact .take (takes name rfl) (.refl after)

/-- Whatever a step is, it takes in the updates that are accepted in it and reports nothing, or it ticks the
meters, flushes or sets the wall clock. -/
theorem step_cases (engine : Engine α φ μ) (step : Step α) :
    ((engine.step step).1 = none ∧ engine.Absorbs (engine.accepted step) (engine.step step).2) ∨
      step = .tick ∨ (∃ interval percent, step = .flush interval percent) ∨
        ∃ seconds, step = .setWallClock seconds := by
  cases step with
  | message bytes =>
      have absorbed := absorbs_takenAll [bytes] engine
      exact .inl ⟨rfl, by simpa [takenAll, accepted, Engine.step] using absorbed⟩
  | packet bytes => exact .inl ⟨rfl, absorbs_takenAll (packetLines bytes) engine⟩
  | increment key value =>
      refine .inl ⟨rfl, ?_⟩
      apply absorbs_direct
      · intro name valid
        simp only [Engine.step, increment, valid]
        exact .count name value 1
      · intro error invalid
        simp only [Engine.step, increment, invalid]
        rfl
  | timing key duration =>
      refine .inl ⟨rfl, ?_⟩
      apply absorbs_direct
      · intro name valid
        simp only [Engine.step, recordTiming, valid]
        exact .duration name duration
      · intro error invalid
        simp only [Engine.step, recordTiming, invalid]
        rfl
  | tick => exact .inr (.inl rfl)
  | flush interval percent => exact .inr (.inr (.inl ⟨interval, percent, rfl⟩))
  | setWallClock seconds => exact .inr (.inr (.inr ⟨seconds, rfl⟩))
  | setStopwatch watch =>
      have same : ({ engine with stopwatch := watch } : Engine α φ μ).bare = engine.bare := rfl
      exact .inl ⟨rfl, .unseen same (.refl _)⟩

/-- What holds of an engine however long it runs: it depends on the metrics alone, and no step ends it. -/
structure Invariant (motive : Engine α φ μ → Prop) : Prop where
  bare {left right : Engine α φ μ} : right.bare = left.bare → motive left → motive right
  takes {engine after : Engine α φ μ} {update : Update α} :
    engine.Takes update after → motive engine → motive after
  tick {engine : Engine α φ μ} : motive engine → motive engine.tickMeters
  flush {engine : Engine α φ μ} (interval : Duration) (percent : Nat) :
    motive engine → motive (engine.flush interval percent).2
  setWallClock {engine : Engine α φ μ} (seconds : α) :
    motive engine → motive { engine with wallClock := seconds }

theorem Invariant.trivial : Invariant fun _ : Engine α φ μ => True :=
  ⟨fun _ => id, fun _ => id, id, fun _ _ => id, fun _ => id⟩

theorem Invariant.and {first second : Engine α φ μ → Prop} (left : Invariant first)
    (right : Invariant second) : Invariant fun engine => first engine ∧ second engine where
  bare same := And.imp (left.bare same) (right.bare same)
  takes takes := And.imp (left.takes takes) (right.takes takes)
  tick := And.imp left.tick right.tick
  flush interval percent := And.imp (left.flush interval percent) (right.flush interval percent)
  setWallClock seconds := And.imp (left.setWallClock seconds) (right.setWallClock seconds)

theorem invariant_settings (settings : Settings) :
    Invariant fun engine : Engine α φ μ => engine.settings = settings where
  bare same kept := (congrArg (fun engine => engine.settings) same).trans kept
  takes takes kept := by cases takes <;> exact kept
  tick := id
  flush _ _ := id
  setWallClock _ := id

theorem Invariant.absorbs {motive : Engine α φ μ → Prop} (invariant : Invariant motive)
    {before after : Engine α φ μ} {updates : List (Update α)}
    (absorbed : before.Absorbs updates after) : motive before → motive after := by
  induction absorbed with
  | refl => exact id
  | unseen same _ ih => exact fun holds => ih (invariant.bare same holds)
  | take takes _ ih => exact fun holds => ih (invariant.takes takes holds)

theorem Invariant.step {motive : Engine α φ μ → Prop} (invariant : Invariant motive)
    {engine : Engine α φ μ} (step : Step α) (holds : motive engine) : motive (engine.step step).2 := by
  rcases engine.step_cases step with
    ⟨_, absorbed⟩ | rfl | ⟨interval, percent, rfl⟩ | ⟨seconds, rfl⟩
  · exact invariant.absorbs absorbed holds
  · exact invariant.tick holds
  · exact invariant.flush interval percent holds
  · exact invariant.setWallClock seconds holds

theorem Invariant.run {motive : Engine α φ μ → Prop} (invariant : Invariant motive) :
    ∀ (steps : List (Step α)) {engine : Engine α φ μ}, motive engine → motive (engine.run steps).2 := by
  intro steps
  induction steps with
  | nil => exact fun holds => holds
  | cons first rest ih => exact fun holds => ih (invariant.step first holds)

end Engine

end MetricAggregation
