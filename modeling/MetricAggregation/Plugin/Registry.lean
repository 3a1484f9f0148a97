import MetricAggregation.Plugin.Metric
import MetricAggregation.Text.Quoted

/-!
The factories that are registered, by the tags that they handle.
-/

namespace MetricAggregation

/-- Registered factories by tag. -/
structure Registry (φ : Type) where
  factories : Table φ

namespace Registry

variable {φ : Type}

def empty : Registry φ := ⟨.empty⟩

def find? (registry : Registry φ) (tag : String) : Option φ := registry.factories.find? tag

def size (registry : Registry φ) : Nat := registry.factories.size

/-- Registers a factory, unless its tag is taken. -/
def register [MetricFactory φ] (registry : Registry φ) (factory : φ) :
    Except ConfigError (Registry φ) :=
  let tag := MetricFactory.tag factory
  if registry.factories.contains tag then .error (.duplicateType tag)
  else .ok ⟨registry.factories.insert tag factory⟩

/-- Lets every factory take up the options; the first that refuses them decides the error. -/
def configure [MetricFactory φ] (registry : Registry φ) (options : Options) :
    Except ConfigError (Registry φ) := do
  let factories ← registry.factories.entries.foldlM (fun (configured : Table φ) entry => do
    return configured.insert entry.1 (← MetricFactory.configure entry.2 options)) .empty
  return ⟨factories⟩

def describe (registry : Registry φ) : String :=
  let tags := registry.factories.keys.mergeSort fun left right => decide (left ≤ right)
  "PluginRegistry \x7b metric_types: [" ++ String.intercalate ", " (tags.map Text.quote) ++ "] \x7d"

end Registry

end MetricAggregation
