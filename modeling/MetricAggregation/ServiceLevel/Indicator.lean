import MetricAggregation.Plugin.Metric
import MetricAggregation.ServiceLevel.Rule

/-!
Service level indicators: how many measurements of an operation meet each of a set of conditions. A
measurement is a number, with the size of the operation in the extra field if it has one, or the word for
a failed operation. Failed operations are counted, and meet no condition.
-/

namespace MetricAggregation

/-- A condition, and the number of measurements that met it. -/
structure ConditionCount (α : Type) where
  label : String
  condition : Condition α
  count : Nat

/-- An indicator, with its counts since the last flush. -/
structure Indicator (α : Type) where
  conditions : List (ConditionCount α)
  count : Nat
  errors : Nat

namespace Indicator

variable {α : Type}

def ofConditions (conditions : Conditions α) : Indicator α :=
  ⟨conditions.map fun entry => ⟨entry.1, entry.2, 0⟩, 0, 0⟩

def conditionCount? (indicator : Indicator α) (label : String) : Option Nat :=
  (indicator.conditions.find? fun entry => entry.label = label).map ConditionCount.count

def updateError (indicator : Indicator α) : Indicator α :=
  { indicator with count := indicator.count + 1, errors := indicator.errors + 1 }

def flushed (indicator : Indicator α) : Indicator α :=
  ⟨indicator.conditions.map fun entry => { entry with count := 0 }, 0, 0⟩

variable [Number α]

def update (indicator : Indicator α) (value size : α) : Indicator α :=
  { indicator with
    count := indicator.count + 1
    conditions := indicator.conditions.map fun entry =>
      if entry.condition.isMet value size then { entry with count := entry.count + 1 } else entry }

/-- The size of an operation, zero unless it is given. -/
def size (extra : Option String) : Except MessageError α :=
  match extra with
  | none => .ok 0
  | some extra =>
    match (parseValue extra : Except MessageError α) with
    | .ok size => .ok size
    | .error _ => .error (.invalidExtra extra)

def errorValue : String := "error"

def process (indicator : Indicator α) (fields : Fields) : Except MessageError (Indicator α) := do
  let size ← size fields.extra
  if fields.value = errorValue then return indicator.updateError
  else return indicator.update (← parseValue fields.value) size

/-- The counts that a flush reports, under the names that it reports them by. -/
def statistics (indicator : Indicator α) : List (String × Nat) :=
  ("count", indicator.count) ::
    (indicator.conditions.map fun entry => ("count_" ++ entry.label, entry.count)) ++
    [("error", indicator.errors)]

/-- What a flush reports under a path, sorted. -/
def report (indicator : Indicator α) (path : String) (timestamp : Nat) : List (Datapoint α) :=
  sortByPath <| indicator.statistics.map fun entry =>
    ⟨joinPath path entry.1, (entry.2 : α), timestamp⟩

end Indicator

/-- The factory of indicators. -/
structure IndicatorFactory (α : Type) where
  rules : List (Rule α)

namespace IndicatorFactory

variable {α : Type}

def empty : IndicatorFactory α := ⟨[]⟩

def conditionsFor (factory : IndicatorFactory α) (path : String) : Conditions α :=
  .ofRules factory.rules path

/-- The section and the key of the option that holds the rules. -/
def rulesOption : String × String := ("plugin_sli", "rules")

variable [Number α]

/-- Puts the rules of a text in the place of the ones before. -/
def setRules (_factory : IndicatorFactory α) (text : String) :
    Except ConfigError (IndicatorFactory α) :=
  (Rule.parseAll text).map fun rules => ⟨rules⟩

/-- Takes up the rules from the options, if they have any. -/
def configure (factory : IndicatorFactory α) (options : Options) :
    Except ConfigError (IndicatorFactory α) :=
  match options.find? rulesOption.1 rulesOption.2 with
  | some text => factory.setRules text
  | none => .ok factory

end IndicatorFactory

instance {α : Type} [Number α] : MetricFactory (IndicatorFactory α) where
  name _ := "SLI"
  tag _ := "sli"
  configure := IndicatorFactory.configure

instance {α : Type} [Number α] : MetricPlugin (IndicatorFactory α) (Indicator α) α where
  build factory address _ _ := .ofConditions (factory.conditionsFor address.path)
  process metric _ fields := ⟨metric.process fields, 0⟩
  flush metric address _ _ timestamp := ⟨(metric.report address.path timestamp, metric.flushed), 0⟩

end MetricAggregation
