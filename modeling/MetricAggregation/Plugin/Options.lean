import MetricAggregation.Table

/-!
Options that metric types are configured with, in sections.
-/

namespace MetricAggregation

/-- Options by section and key. -/
structure Options where
  sections : Table (Table String)

namespace Options

def empty : Options := ⟨.empty⟩

def set (options : Options) (section_ key value : String) : Options :=
  ⟨options.sections.upsert section_ fun old => (old.getD .empty).insert key value⟩

/-- The value of an option, if it is set. -/
def find? (options : Options) (section_ key : String) : Option String :=
  (options.sections.find? section_).bind fun entries => entries.find? key

/-- The options of a list, of which a later entry replaces an earlier one. -/
def ofList (entries : List (String × String × String)) : Options :=
  entries.foldl (fun options entry => options.set entry.1 entry.2.1 entry.2.2) empty

end Options

end MetricAggregation
