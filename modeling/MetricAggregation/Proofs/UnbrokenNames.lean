import Mathlib.Tactic.SplitIfs
import MetricAggregation.Proofs.Engine.Acceptance
import MetricAggregation.Proofs.Indicator
import MetricAggregation.Proofs.Labels
import MetricAggregation.Proofs.MessageGrammar

/-!
The names that get into paths from outside have no blanks: the keys of messages and direct updates are
normalized, the tags of messages that fit are known, and the labels of service level rules are words.
-/

namespace MetricAggregation

open Text (Unbroken)

section Messages

variable {α : Type} [Number α]

theorem Message.unbroken_key {line : String} {message : Message} (parsed : Message.parse line = .ok message) :
    Unbroken message.key := by
  have normalized := (wellWritten_of_parse parsed).normalized
  exact Text.unbroken_of_isAllowed fun char member =>
    Key.isAllowed_iff.mpr (Key.normalize_eq_self_iff.mp normalized char member)

theorem Engine.unbroken_directKey {key name : String} {value : α}
    (valid : directKey key value = .ok name) : Unbroken name := by
  simp only [directKey] at valid
  split at valid
  · split at valid
    · cases valid
    · cases valid
      exact Text.unbroken_normalizeChars _
  · cases valid

theorem Fields.unbroken_tag {fields : Fields} (fit : fields.Fit α) : Unbroken fields.tag := by
  have known : fields.tag ∈ ["c", "ms", "g", "m", "pd", "sli"] := by
    unfold Fit MetricKind.ofTag at fit
    split_ifs at fit
    · simp [*]
    · simp [*]
    · simp [*]
    · simp [*]
    · simp only at fit
      rcases fit with distinct | ⟨service, _⟩
      · simp [distinct]
      · simp [service]
  have all : ∀ tag ∈ ["c", "ms", "g", "m", "pd", "sli"], Unbroken tag := by decide
  exact all _ known

end Messages

section Rules

variable {α : Type}

def LabelsUnbroken (rules : List (Rule α)) : Prop := ∀ rule ∈ rules, Unbroken rule.label

theorem Rule.labelsUnbroken_parseAll [Number α] {text : String} {rules : List (Rule α)}
    (parsed : parseAll text = .ok rules) : LabelsUnbroken rules := by
  intro rule member char inLabel
  exact Text.isBlank_of_isWord (isWord_label_parseAll parsed rule member char inLabel)

/-- The rules that options set up have labels without blanks. -/
theorem IndicatorFactory.labelsUnbroken_configure [Number α] {options : Options} {factory : IndicatorFactory α}
    (configured : (IndicatorFactory.empty : IndicatorFactory α).configure options = .ok factory) :
    LabelsUnbroken factory.rules := by
  unfold configure at configured
  split at configured
  · obtain ⟨rules, parsed, rfl⟩ := Except.map_eq_ok_iff.mp configured
    exact Rule.labelsUnbroken_parseAll parsed
  · cases configured
    exact fun rule member => nomatch member

theorem Conditions.unbroken_ofRules {rules : List (Rule α)} (labels : LabelsUnbroken rules) (path : String) :
    ∀ entry ∈ ofRules rules path, Unbroken entry.1 := by
  intro entry member
  obtain ⟨rule, given, same⟩ := label_of_mem_ofRules (List.mem_map.mpr ⟨entry, member, rfl⟩)
  exact same ▸ labels rule given

/-- If a metric is an indicator, the labels of its conditions have no blanks. -/
def StandardMetric.Labelled (_tag : String) (metric : StandardMetric α) : Prop :=
  ∀ indicator, metric = .inr indicator → ∀ entry ∈ indicator.conditions, Unbroken entry.label

theorem StandardMetric.lasting_labelled [Number α] {rules : List (Rule α)} (labels : LabelsUnbroken rules) :
    Engine.Lasting (α := α) (StandardFactory.registry rules) StandardMetric.Labelled where
  build := by
    intro tag factory address now boxes registered indicator built entry member
    rw [StandardFactory.find?_registry] at registered
    split at registered
    · cases registered
      cases built
      obtain ⟨condition, given, rfl⟩ := List.mem_map.mp member
      exact Conditions.unbroken_ofRules labels _ condition given
    · split at registered
      · cases registered
        cases built
      · cases registered
  process := by
    intro tag metric changed now fields processed labelled indicator same entry member
    cases metric with
    | inl distinct =>
        cases processed
        cases same
    | inr old =>
        obtain ⟨after, counted, rfl⟩ := Except.map_eq_ok_iff.mp processed
        cases same
        rcases Indicator.process_cases counted with ⟨_, rfl⟩ | ⟨_, value, size, rfl⟩
        · exact labelled old rfl entry member
        · obtain ⟨condition, given, rfl⟩ := List.mem_map.mp member
          have kept := labelled old rfl condition given
          split
          · exact kept
          · exact kept
  flush := by
    intro tag metric address now seconds timestamp labelled indicator same entry member
    cases metric with
    | inl distinct => cases same
    | inr old =>
        cases same
        obtain ⟨condition, given, rfl⟩ := List.mem_map.mp member
        exact labelled old rfl condition given

end Rules

end MetricAggregation
