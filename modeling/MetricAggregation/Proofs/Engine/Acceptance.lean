import MetricAggregation.Proofs.Engine.Extension
import MetricAggregation.Setup

/-!
Which messages an engine with the standard metric types accepts: this is decided by the text of a message
alone, whatever the engine received before. A message that is not accepted leaves nothing behind but its
place in the count of discarded ones.
-/

namespace MetricAggregation

variable (α : Type) [Number α]

/-- A text can be read as a value. -/
def IsValue (text : String) : Prop := ∃ value : α, parseValue text = .ok value

/-- The fields of a message are such as the metrics of its kind take in. -/
def Fields.Fit (fields : Fields) : Prop :=
  match MetricKind.ofTag fields.tag with
  | .counter => IsValue α fields.value ∧
      ∀ extra ∈ fields.extra, ∃ rate : α, parseSampleRate extra = .ok rate
  | .timer => IsValue α fields.value
  | .gauge => ':' ∉ fields.value.toList ∧ IsValue α fields.value
  | .meter => ':' ∉ fields.value.toList ∧ IsValue α fields.value
  | .extension tag => tag = "pd" ∨
      tag = "sli" ∧ (∀ extra ∈ fields.extra, IsValue α extra) ∧
        (fields.value = "error" ∨ IsValue α fields.value)

/-- Bytes are a message whose fields fit. -/
def WellFormed (bytes : List UInt8) : Prop :=
  ∃ line message, String.fromUTF8? ⟨bytes.toArray⟩ = some line ∧ Message.parse line = .ok message ∧
    message.fields.Fit α

variable {α}

theorem parseSingleValue_ok_iff {raw : String} :
    (∃ value : α, parseSingleValue raw = .ok value) ↔ ':' ∉ raw.toList ∧ IsValue α raw := by
  unfold parseSingleValue IsValue
  by_cases parts : ':' ∈ raw.toList
  · simp [parts]
  · simp [parts]

theorem sampleRate_ok_iff {extra : Option String} :
    (∃ rate : α, Engine.sampleRate extra = .ok rate) ↔
      ∀ field ∈ extra, ∃ rate : α, parseSampleRate field = .ok rate := by
  cases extra with
  | none => simp [Engine.sampleRate]
  | some field => simp [Engine.sampleRate]

theorem Indicator.size_ok_iff {extra : Option String} :
    (∃ size : α, Indicator.size extra = .ok size) ↔ ∀ field ∈ extra, IsValue α field := by
  unfold Indicator.size IsValue
  cases extra with
  | none => simp
  | some field =>
      cases read : (parseValue field : Except MessageError α) with
      | error _ => simp [read]
      | ok size => simp [read]

theorem Indicator.process_ok_iff (indicator : Indicator α) {fields : Fields} :
    (∃ changed, indicator.process fields = .ok changed) ↔
      (∀ extra ∈ fields.extra, IsValue α extra) ∧ (fields.value = "error" ∨ IsValue α fields.value) := by
  rw [← Indicator.size_ok_iff]
  unfold Indicator.process IsValue
  by_cases failed : fields.value = errorValue
  · have word : fields.value = "error" := failed
    simp only [Except.bind_eq_ok_iff, failed, if_true, Except.pure_eq_ok_iff]
    constructor
    · rintro ⟨_, size, sized, _⟩
      exact ⟨⟨size, sized⟩, .inl rfl⟩
    · rintro ⟨⟨size, sized⟩, _⟩
      exact ⟨_, size, sized, rfl⟩
  · simp only [Except.bind_eq_ok_iff, if_neg failed, Except.pure_eq_ok_iff]
    constructor
    · rintro ⟨_, size, sized, value, read, _⟩
      exact ⟨⟨size, sized⟩, .inr ⟨value, read⟩⟩
    · rintro ⟨⟨size, sized⟩, word | ⟨value, read⟩⟩
      · exact absurd word failed
      · exact ⟨_, size, sized, value, read, rfl⟩

def StandardFactory.registry (rules : List (Rule α)) : Registry (StandardFactory α) :=
  ⟨(Table.empty.insert "pd" (.inl .mk)).insert "sli" (.inr ⟨rules⟩)⟩

omit [Number α] in
theorem StandardFactory.find?_registry (rules : List (Rule α)) (tag : String) :
    (StandardFactory.registry rules).find? tag =
      if tag = "sli" then some (.inr ⟨rules⟩) else if tag = "pd" then some (.inl .mk) else none := by
  simp only [StandardFactory.registry, Registry.find?, Table.find?_insert, Table.find?_empty]

theorem Setup.registry_standard (setup : Setup (StandardFactory α))
    (standard : setup.plugins = StandardFactory.all α) :
    setup.registry =
      ((IndicatorFactory.empty : IndicatorFactory α).configure setup.options).map fun factory =>
        StandardFactory.registry factory.rules := by
  have registered : (StandardFactory.all α).foldlM Registry.register Registry.empty =
      .ok (StandardFactory.registry []) := rfl
  have entries : (StandardFactory.registry ([] : List (Rule α))).factories.entries =
      [("pd", .inl .mk), ("sli", .inr .empty)] := rfl
  unfold Setup.registry
  rw [standard, registered]
  simp only [bind, Except.bind, Registry.configure, entries, List.foldlM_cons, List.foldlM_nil]
  cases found : (IndicatorFactory.empty : IndicatorFactory α).configure setup.options with
  | error _ =>
      simp only [MetricFactory.configure, Except.map, pure, Except.pure, found]
  | ok factory =>
      simp only [MetricFactory.configure, Except.map, pure, Except.pure, found]
      rfl

/-- The standard metric types are set up with the rules of the options, whatever else is chosen. -/
theorem Setup.engine_standard (setup : Setup (StandardFactory α))
    (standard : setup.plugins = StandardFactory.all α) (chance : Chance α) (now : α) :
    (setup.engine chance now : Except SetupError (Engine α (StandardFactory α) (StandardMetric α))) =
      match (IndicatorFactory.empty : IndicatorFactory α).configure setup.options with
      | .ok factory => .ok (.new setup.settings chance (StandardFactory.registry factory.rules) now)
      | .error error => .error (.plugin error) := by
  unfold Setup.engine
  rw [setup.registry_standard standard]
  cases (IndicatorFactory.empty : IndicatorFactory α).configure setup.options with
  | error _ => rfl
  | ok _ => rfl

/-- Under each tag there are only metrics of the type that it stands for. -/
def StandardMetric.Under (tag : String) (metric : StandardMetric α) : Prop :=
  (tag = "pd" ∧ ∃ distinct, metric = .inl distinct) ∨ (tag = "sli" ∧ ∃ indicator, metric = .inr indicator)

theorem StandardMetric.lasting (rules : List (Rule α)) :
    Engine.Lasting (α := α) (StandardFactory.registry rules) StandardMetric.Under where
  build := by
    intro tag factory address now boxes registered
    rw [StandardFactory.find?_registry] at registered
    split at registered
    · rename_i service
      cases registered
      exact .inr ⟨service, _, rfl⟩
    · split at registered
      · rename_i distinct
        cases registered
        exact .inl ⟨distinct, _, rfl⟩
      · cases registered
  process := by
    rintro tag metric changed now fields processed (⟨rfl, distinct, rfl⟩ | ⟨rfl, indicator, rfl⟩)
    · cases processed
      exact .inl ⟨rfl, _, rfl⟩
    · obtain ⟨after, _, rfl⟩ := Except.map_eq_ok_iff.mp processed
      exact .inr ⟨rfl, after, rfl⟩
  flush := by
    rintro tag metric address now seconds timestamp (⟨rfl, distinct, rfl⟩ | ⟨rfl, indicator, rfl⟩)
    · exact .inl ⟨rfl, _, rfl⟩
    · exact .inr ⟨rfl, _, rfl⟩

namespace Engine

variable {engine : Engine α (StandardFactory α) (StandardMetric α)} {rules : List (Rule α)}

theorem process_standard_ok_iff {tag : String} {metric : StandardMetric α} {now : α} {fields : Fields}
    (under : StandardMetric.Under tag metric) :
    (∃ changed, (MetricPlugin.process (StandardFactory α) metric now fields).value = .ok changed) ↔
      tag = "pd" ∨ tag = "sli" ∧ (∀ extra ∈ fields.extra, IsValue α extra) ∧
        (fields.value = "error" ∨ IsValue α fields.value) := by
  rcases under with ⟨rfl, distinct, rfl⟩ | ⟨rfl, indicator, rfl⟩
  · simp [MetricPlugin.process, Except.map]
  · rw [← indicator.process_ok_iff]
    constructor
    · rintro ⟨_, processed⟩
      obtain ⟨changed, counted, _⟩ := Except.map_eq_ok_iff.mp processed
      exact .inr ⟨rfl, changed, counted⟩
    · rintro (other | ⟨_, changed, counted⟩)
      · simp at other
      · exact ⟨_, Except.map_eq_ok_iff.mpr ⟨changed, counted, rfl⟩⟩

theorem extensionFor_standard_ok (all : engine.AllExtensions (StandardFactory.registry rules)
    StandardMetric.Under) {tag : String} (known : tag = "pd" ∨ tag = "sli") (key : String) :
    ∃ metric, engine.extensionFor tag key = .ok metric := by
  unfold extensionFor
  cases engine.extension? tag key with
  | some metric => exact ⟨metric, rfl⟩
  | none =>
      rw [all.1, StandardFactory.find?_registry]
      rcases known with rfl | rfl
      · exact ⟨_, rfl⟩
      · exact ⟨_, rfl⟩

theorem apply_standard_ok_iff (all : engine.AllExtensions (StandardFactory.registry rules)
    StandardMetric.Under) (message : Message) :
    (∃ updated, (engine.apply message).value = .ok updated) ↔ message.fields.Fit α := by
  unfold apply Fields.Fit Message.kind
  cases MetricKind.ofTag message.fields.tag with
  | counter =>
      simp only [Except.bind_eq_ok_iff, Except.pure_eq_ok_iff]
      rw [← sampleRate_ok_iff]
      constructor
      · rintro ⟨_, value, valueRead, rate, rateRead, _⟩
        exact ⟨⟨value, valueRead⟩, rate, rateRead⟩
      · rintro ⟨⟨value, valueRead⟩, rate, rateRead⟩
        exact ⟨_, value, valueRead, rate, rateRead, rfl⟩
  | timer =>
      simp only [Except.map_eq_ok_iff, IsValue]
      constructor
      · rintro ⟨_, value, read, _⟩
        exact ⟨value, read⟩
      · rintro ⟨value, read⟩
        exact ⟨_, value, read, rfl⟩
  | gauge | meter =>
      simp only [Except.map_eq_ok_iff, ← parseSingleValue_ok_iff]
      constructor
      · rintro ⟨_, value, read, _⟩
        exact ⟨value, read⟩
      · rintro ⟨value, read⟩
        exact ⟨_, value, read, rfl⟩
  | extension tag =>
      simp only [applyExtension]
      constructor
      · rintro ⟨updated, applied⟩
        cases found : engine.extensionFor tag message.key with
        | error _ => simp [found] at applied
        | ok metric =>
            simp only [found] at applied
            obtain ⟨changed, processed, _⟩ := Except.map_eq_ok_iff.mp applied
            have under := (StandardMetric.lasting rules).extensionFor all found
            exact (process_standard_ok_iff under).mp ⟨changed, processed⟩
      · intro fit
        have known : tag = "pd" ∨ tag = "sli" := fit.imp_right And.left
        obtain ⟨metric, found⟩ := extensionFor_standard_ok all known message.key
        have under := (StandardMetric.lasting rules).extensionFor all found
        obtain ⟨changed, processed⟩ := (process_standard_ok_iff under).mpr fit
        simp only [found]
        exact ⟨_, Except.map_eq_ok_iff.mpr ⟨changed, processed, rfl⟩⟩

theorem readMessage_ok_iff {bytes : List UInt8} {message : Message} :
    readMessage bytes = .ok message ↔
      ∃ line, String.fromUTF8? ⟨bytes.toArray⟩ = some line ∧ Message.parse line = .ok message := by
  unfold readMessage
  cases String.fromUTF8? ⟨bytes.toArray⟩ with
  | none => simp
  | some line => simp

theorem accepts_standard_iff (all : engine.AllExtensions (StandardFactory.registry rules)
    StandardMetric.Under) (bytes : List UInt8) : engine.Accepts bytes ↔ WellFormed α bytes := by
  constructor
  · rintro ⟨message, updated, read, applied⟩
    obtain ⟨line, decoded, parsed⟩ := readMessage_ok_iff.mp read
    exact ⟨line, message, decoded, parsed, (apply_standard_ok_iff all message).mp ⟨updated, applied⟩⟩
  · rintro ⟨line, message, decoded, parsed, fit⟩
    obtain ⟨updated, applied⟩ := (apply_standard_ok_iff all message).mpr fit
    exact ⟨message, updated, readMessage_ok_iff.mpr ⟨line, decoded, parsed⟩, applied⟩

theorem badLines_process_of_accepts {φ μ : Type} [MetricFactory φ] [MetricPlugin φ μ α]
    {engine : Engine α φ μ} {bytes : List UInt8} (accepted : engine.Accepts bytes) :
    (engine.process bytes).badLines = engine.badLines := by
  obtain ⟨message, updated, read, applied⟩ := accepted
  obtain ⟨_, _, takes⟩ := takes_of_apply applied
  have kept : updated.badLines = engine.badLines := by cases takes <;> rfl
  simp only [process, read, applied]
  exact kept

theorem took_apply_standard (message : Message) : (engine.apply message).took = 0 := by
  unfold apply
  cases message.kind with
  | counter | timer | gauge | meter => rfl
  | extension tag =>
      simp only [applyExtension]
      cases engine.extensionFor tag message.key with
      | error _ => rfl
      | ok metric => cases metric <;> rfl

theorem process_standard_of_refused {bytes : List UInt8} (refused : ¬engine.Accepts bytes) :
    engine.process bytes = { engine with badLines := engine.badLines + 1 } := by
  unfold process
  cases read : readMessage bytes with
  | error _ => rfl
  | ok message =>
      cases applied : (engine.apply message).value with
      | ok updated => exact absurd ⟨message, updated, read, applied⟩ refused
      | error _ =>
          have still : engine.stopwatch.advance 0 = engine.stopwatch := by
            simp [Stopwatch.advance]
          simp only [applied, took_apply_standard, still]
          rfl

/-- In every state that an engine with the standard metric types can reach, with any rules, it accepts the
well-formed messages and no others. An accepted message is not counted as discarded; any other is, and
changes nothing else. -/
theorem accepts_iff_wellFormed (settings : Settings) (chance : Chance α) (rules : List (Rule α)) (now : α)
    (steps : List (Step α)) (bytes : List UInt8) :
    let start : Engine α (StandardFactory α) (StandardMetric α) :=
      .new settings chance (StandardFactory.registry rules) now
    let engine := (start.run steps).2
    (engine.Accepts bytes ↔ WellFormed α bytes) ∧
      (engine.Accepts bytes → (engine.process bytes).badLines = engine.badLines) ∧
      (¬engine.Accepts bytes → engine.process bytes = { engine with badLines := engine.badLines + 1 }) := by
  intro start engine
  have all : engine.AllExtensions (StandardFactory.registry rules) StandardMetric.Under :=
    (StandardMetric.lasting rules).invariant.run steps (allExtensions_new settings chance _ now _)
  exact ⟨accepts_standard_iff all bytes, badLines_process_of_accepts, process_standard_of_refused⟩

end Engine

end MetricAggregation
