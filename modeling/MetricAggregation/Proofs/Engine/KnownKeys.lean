import MetricAggregation.Proofs.Engine.Presence
import MetricAggregation.Proofs.MessageGrammar
import MetricAggregation.Proofs.Utf8

/-!
The keys that an engine lists, from what senders wrote. A key is listed as it is normalized, from the first
update on that is accepted for it; the key of a gauge is only listed until the next flush.
-/

namespace MetricAggregation

/-- What an accepted update is for, with the key that the sender wrote. -/
structure Request where
  kind : MetricKind
  writtenKey : String

namespace Request

def key (request : Request) : String := Key.normalize request.writtenKey

def target (request : Request) : MetricKind × String := (request.kind, request.key)

end Request

namespace Message

/-- The key that a sender wrote in a line: all that stands before the first colon. -/
def writtenKey (line : String) : String :=
  String.ofList ((Text.trim line.toList).takeWhile (· ≠ ':'))

theorem key_of_parse {line : String} {message : Message} (read : parse line = .ok message) :
    message.key = Key.normalize (writtenKey line) := by
  obtain ⟨text, core, reads⟩ := reads_parse line
  rw [read] at reads
  cases reads with
  | message first => rw [writtenKey, Text.trim_eq_iff.mpr core, (split_at_colon first _).1, String.ofList_toList]

end Message

namespace Engine

variable {α φ μ : Type} [Number α] [MetricFactory φ] [MetricPlugin φ μ α]

/-- What a line asks for, if it is accepted. -/
def request? (engine : Engine α φ μ) (bytes : List UInt8) : Option Request := do
  let line ← String.fromUTF8? ⟨bytes.toArray⟩
  let message ← (Message.parse line).toOption
  let _ ← (engine.apply message).value.toOption
  return ⟨message.kind, Message.writtenKey line⟩

def requestsOf (engine : Engine α φ μ) : List (List UInt8) → List Request
  | [] => []
  | bytes :: rest => (engine.request? bytes).toList ++ (engine.process bytes).requestsOf rest

/-- What is asked for in a step, as far as it is accepted. -/
def requests (engine : Engine α φ μ) : Step α → List Request
  | .message bytes => (engine.request? bytes).toList
  | .packet bytes => engine.requestsOf (packetLines bytes)
  | .increment key value => (directKey key value).toOption.toList.map fun _ => ⟨.counter, key⟩
  | .timing key duration => (directKey key duration).toOption.toList.map fun _ => ⟨.timer, key⟩
  | .tick => []
  | .flush _ _ => []
  | .setWallClock _ => []
  | .setStopwatch _ => []

def requestsIn (engine : Engine α φ μ) : List (Step α) → List Request
  | [] => []
  | first :: rest => engine.requests first ++ (engine.step first).2.requestsIn rest

/-- What was asked for since the last flush of a run. -/
def requestsSince (engine : Engine α φ μ) (asked : List Request) (steps : List (Step α)) : List Request :=
  engine.since requests asked steps

theorem map_target_request? (engine : Engine α φ μ) (bytes : List UInt8) :
    (engine.request? bytes).map Request.target = (engine.taken? bytes).map Update.target := by
  unfold request? taken? readMessage
  cases String.fromUTF8? ⟨bytes.toArray⟩ with
  | none => rfl
  | some line =>
      cases read : Message.parse line with
      | error _ => simp [read, Except.toOption]
      | ok message =>
          cases applied : (engine.apply message).value with
          | error _ => simp [read, applied, Except.toOption]
          | ok updated =>
              obtain ⟨update, asked, _⟩ := takes_of_apply applied
              simp [read, applied, asked, Except.toOption, Update.target_ofMessage asked, Request.target,
                Request.key, Message.key_of_parse read]

theorem map_target_requestsOf (lines : List (List UInt8)) : ∀ engine : Engine α φ μ,
    (engine.requestsOf lines).map Request.target = (engine.takenAll lines).map Update.target := by
  induction lines with
  | nil => exact fun _ => rfl
  | cons bytes rest ih =>
      intro engine
      rw [requestsOf, takenAll, List.map_append, List.map_append, ih, ← Option.toList_map,
        ← Option.toList_map, map_target_request?]

omit [MetricFactory φ] [MetricPlugin φ μ α] in
theorem map_target_direct {key : String} {value : α} {kind : MetricKind} {update : String → Update α}
    (own : ∀ name, (update name).target = (kind, name)) :
    ((directKey key value).toOption.toList.map fun _ => Request.mk kind key).map Request.target =
      ((directKey key value).toOption.toList.map update).map Update.target := by
  unfold directKey
  dsimp only
  split_ifs
  · rfl
  · simp [Except.toOption, own, Request.target, Request.key]
  · rfl

theorem map_target_requests (engine : Engine α φ μ) (step : Step α) :
    (engine.requests step).map Request.target = (engine.accepted step).map Update.target := by
  cases step with
  | message bytes =>
      simp only [requests, accepted, ← Option.toList_map]
      rw [map_target_request?]
  | packet bytes => exact map_target_requestsOf (packetLines bytes) engine
  | increment key value => exact map_target_direct fun _ => rfl
  | timing key duration => exact map_target_direct fun _ => rfl
  | tick | flush | setWallClock | setStopwatch => rfl

theorem map_target_requestsIn (steps : List (Step α)) : ∀ engine : Engine α φ μ,
    (engine.requestsIn steps).map Request.target = (engine.acceptedIn steps).map Update.target := by
  induction steps with
  | nil => exact fun _ => rfl
  | cons first rest ih =>
      intro engine
      rw [requestsIn, acceptedIn, List.map_append, List.map_append, ih, map_target_requests]

variable {kind : MetricKind} {key : String} {engine : Engine α φ μ}

theorem has_step_iff_requested {step : Step α}
    (unflushed : ∀ interval percent, step ≠ .flush interval percent) :
    (engine.step step).2.Has kind key ↔
      engine.Has kind key ∨ ∃ request ∈ engine.requests step, request.target = (kind, key) := by
  rw [← List.mem_map, map_target_requests, List.mem_map]
  exact has_step_iff_of_unflushed unflushed

theorem has_run_iff_requested (lasting : kind ≠ .gauge) (steps : List (Step α)) :
    (engine.run steps).2.Has kind key ↔
      engine.Has kind key ∨ ∃ request ∈ engine.requestsIn steps, request.target = (kind, key) := by
  rw [has_run_iff lasting, ← List.mem_map, ← map_target_requestsIn, List.mem_map]

theorem has_gauge_run_iff (steps : List (Step α)) :
    ∀ (engine : Engine α φ μ) (asked : List Request),
      (∀ key, engine.Has .gauge key ↔ ∃ request ∈ asked, request.target = (.gauge, key)) →
        ∀ key, (engine.run steps).2.Has .gauge key ↔
          ∃ request ∈ engine.requestsSince asked steps, request.target = (.gauge, key) := by
  refine since_run (fun engine interval percent key => ?_) (fun engine asked step unflushed known key => ?_) steps
  · simp [has_flush_iff]
  · rw [has_step_iff_requested unflushed, known]
    simp only [List.mem_append, or_and_right, exists_or]

omit [Number α] [MetricFactory φ] [MetricPlugin φ μ α] in
theorem pairwise_metricNames (engine : Engine α φ μ) :
    (engine.metricNames.map Text.bytes).Pairwise (· < ·) := by
  rw [List.pairwise_map]
  exact (pairwise_eraseReps_lt _ (pairwise_mergeSort_le id _)).imp Text.bytes_lt

omit [Number α] [MetricFactory φ] [MetricPlugin φ μ α] in
theorem not_has_new {settings : Settings} {chance : Chance α} {plugins : Registry φ} {wallClock : α} :
    ¬(Engine.new settings chance plugins wallClock : Engine α φ μ).Has kind key := by
  cases kind with
  | gauge => exact fun waiting => waiting rfl
  | counter | timer | meter | extension => exact nofun

/-- Whatever is done with an engine, it lists in the order of their bytes, and each once, just the normalized
keys of the updates accepted for counters, timers, meters and metrics of further types since it was made, and
for gauges since it was last flushed. Whatever is done next, all but the gauges stay. -/
theorem metricNames_run (settings : Settings) (chance : Chance α) (plugins : Registry φ) (wallClock : α)
    (steps : List (Step α)) :
    let start : Engine α φ μ := .new settings chance plugins wallClock
    let final := (start.run steps).2
    (final.metricNames.map Text.bytes).Pairwise (· < ·) ∧
      (∀ name, name ∈ final.metricNames ↔
        (∃ request ∈ start.requestsIn steps, request.kind ≠ .gauge ∧
          Key.normalize request.writtenKey = name) ∨
        ∃ request ∈ start.requestsSince [] steps, request.kind = .gauge ∧
          Key.normalize request.writtenKey = name) ∧
      ∀ step kind key, kind ≠ .gauge → final.Has kind key →
        (final.step step).2.Has kind key ∧ key ∈ (final.step step).2.metricNames := by
  intro start final
  have lasting (kind : MetricKind) (notGauge : kind ≠ .gauge) (name : String) :
      final.Has kind name ↔ ∃ request ∈ start.requestsIn steps, request.target = (kind, name) := by
    rw [has_run_iff_requested notGauge, or_iff_right not_has_new]
  have waiting (name : String) : final.Has .gauge name ↔
      ∃ request ∈ start.requestsSince [] steps, request.target = (.gauge, name) :=
    has_gauge_run_iff steps start [] (fun _ => iff_of_false not_has_new (by simp)) name
  refine ⟨pairwise_metricNames final, fun name => ?_, fun step kind key notGauge has => ?_⟩
  · rw [mem_metricNames_iff]
    constructor
    · rintro ⟨kind, has⟩
      by_cases gauge : kind = .gauge
      · subst gauge
        obtain ⟨request, member, target⟩ := (waiting name).mp has
        exact .inr ⟨request, member, (Prod.mk.inj target).1, (Prod.mk.inj target).2⟩
      · obtain ⟨request, member, target⟩ := (lasting kind gauge name).mp has
        obtain ⟨rfl, rfl⟩ := Prod.mk.inj target
        exact .inl ⟨request, member, gauge, rfl⟩
    · rintro (⟨request, member, notGauge, rfl⟩ | ⟨request, member, gauge, rfl⟩)
      · exact ⟨request.kind, (lasting _ notGauge _).mpr ⟨request, member, rfl⟩⟩
      · exact ⟨.gauge, (waiting _).mpr ⟨request, member, Prod.ext gauge rfl⟩⟩
  · have stays := (has_step_iff notGauge step).mpr (.inl has)
    exact ⟨stays, mem_metricNames_iff.mpr ⟨kind, stays⟩⟩

end Engine

end MetricAggregation
