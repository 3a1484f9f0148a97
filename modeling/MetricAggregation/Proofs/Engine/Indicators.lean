import MetricAggregation.Proofs.Engine.Commutation
import MetricAggregation.Proofs.Engine.Independence
import MetricAggregation.Proofs.Labels

/-!
The indicators of an engine: whatever they have counted, their conditions are those that the rules give to
their paths.
-/

namespace MetricAggregation

namespace Indicator

variable {α : Type}

theorem flushed_ofConditions (conditions : Conditions α) :
    (ofConditions conditions).flushed = ofConditions conditions := by
  simp [flushed, ofConditions, Function.comp_def]

theorem flushed_flushed (indicator : Indicator α) : indicator.flushed.flushed = indicator.flushed := by
  simp [flushed, Function.comp_def]

variable [Number α]

theorem flushed_take (indicator : Indicator α) (measurement : Measurement α) :
    (indicator.take measurement).flushed = indicator.flushed := by
  cases measurement with
  | failure => rfl
  | value value size =>
      simp only [take, update, flushed, List.map_map, Indicator.mk.injEq, and_true]
      apply List.map_congr_left
      intro entry _
      by_cases met : entry.condition.isMet value size
      · simp [met]
      · simp [met]

theorem flushed_process {indicator changed : Indicator α} {fields : Fields}
    (processed : indicator.process fields = .ok changed) : changed.flushed = indicator.flushed := by
  rw [process_eq] at processed
  obtain ⟨measurement, _, rfl⟩ := Except.map_eq_ok_iff.mp processed
  exact indicator.flushed_take measurement

end Indicator

namespace Engine

variable {α : Type} {settings : Settings} {rules : List (Rule α)}

/-- An engine with the standard metric types, whose indicators differ from new ones just by their counts. -/
structure Ruled [Number α] (settings : Settings) (rules : List (Rule α))
    (engine : Engine α (StandardFactory α) (StandardMetric α)) : Prop where
  chosen : engine.settings = settings
  standard : Standard rules engine
  flushed {key : String} {indicator : Indicator α} :
    engine.extension? "sli" key = some (.inr indicator) →
      indicator.flushed = ruledIndicator settings rules key

theorem flushed_ruledIndicator (settings : Settings) (rules : List (Rule α)) (key : String) :
    (ruledIndicator settings rules key).flushed = ruledIndicator settings rules key :=
  Indicator.flushed_ofConditions _

variable [Number α] {engine : Engine α (StandardFactory α) (StandardMetric α)}

theorem ruled_new (settings : Settings) (chance : Chance α) (rules : List (Rule α)) (now : α) :
    Ruled settings rules (.new settings chance (StandardFactory.registry rules) now) where
  chosen := rfl
  standard := standard_new settings chance rules now
  flushed := nofun

theorem Ruled.extensionFor (ruled : Ruled settings rules engine) {key : String} {indicator : Indicator α}
    (found : engine.extensionFor "sli" key = .ok (.inr indicator)) :
    indicator.flushed = ruledIndicator settings rules key := by
  have given := extensionFor_indicator ruled.chosen ruled.standard found
  cases present : engine.extension? "sli" key with
  | none =>
      rw [present] at given
      obtain rfl := Sum.inr.inj given
      exact flushed_ruledIndicator settings rules key
  | some metric =>
      rcases ruled.standard.2 "sli" key metric present with ⟨other, _⟩ | ⟨_, held, rfl⟩
      · simp at other
      · rw [present] at given
        obtain rfl := Sum.inr.inj given
        exact ruled.flushed present

theorem invariant_ruled : Invariant (Ruled settings rules) where
  bare := by
    intro left right same ruled
    have extensions : right.extensions = left.extensions := congrArg (fun e => e.extensions) same
    refine ⟨(invariant_settings settings).bare same ruled.chosen,
      invariant_standard.bare same ruled.standard, ?_⟩
    intro key indicator present
    apply ruled.flushed
    rwa [extension?, extensions] at present
  takes := by
    intro engine after update takes ruled
    refine ⟨(invariant_settings settings).takes takes ruled.chosen,
      invariant_standard.takes takes ruled.standard, ?_⟩
    cases takes with
    | count | duration | gauge | events => exact ruled.flushed
    | @further tag name fields metric changed found processed =>
        intro key indicator present
        rw [extension?_putExtension] at present
        split at present
        · rename_i own
          obtain ⟨rfl, rfl⟩ := own
          obtain rfl := Option.some.inj present
          rcases (StandardMetric.lasting rules).extensionFor ruled.standard found with
            ⟨other, _⟩ | ⟨_, before, rfl⟩
          · simp at other
          · obtain ⟨after, counted, same⟩ := Except.map_eq_ok_iff.mp processed
            obtain rfl := Sum.inr.inj same
            rw [Indicator.flushed_process counted]
            exact ruled.extensionFor found
        · exact ruled.flushed present
  tick := fun ruled => ⟨ruled.chosen, ruled.standard, ruled.flushed⟩
  flush := by
    intro engine interval percent ruled
    refine ⟨ruled.chosen, invariant_standard.flush interval percent ruled.standard, ?_⟩
    intro key indicator present
    rw [extension?_flush, Option.map_eq_some_iff] at present
    obtain ⟨metric, found, flushed⟩ := present
    rcases ruled.standard.2 "sli" key metric found with ⟨other, _⟩ | ⟨_, before, rfl⟩
    · simp at other
    · obtain rfl := Sum.inr.inj flushed
      exact before.flushed_flushed.trans (ruled.flushed found)
  setWallClock := fun _ ruled => ⟨ruled.chosen, ruled.standard, ruled.flushed⟩

theorem Ruled.labels (ruled : Ruled settings rules engine) {key : String} {indicator : Indicator α}
    (present : engine.extension? "sli" key = some (.inr indicator)) :
    indicator.conditions.map ConditionCount.label =
      (Conditions.ofRules rules (settings.address "SLI" key).path).map Prod.fst := by
  have same := congrArg (fun indicator => indicator.conditions.map ConditionCount.label)
    (ruled.flushed present)
  simpa [Indicator.flushed, ruledIndicator, Indicator.ofConditions, Function.comp_def] using same

end Engine

end MetricAggregation
