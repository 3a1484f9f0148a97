/-!
Errors in how metric types are set up.
-/

namespace MetricAggregation

/-- Why metric types cannot be set up. Rules are numbered from zero.

No error is about a pattern that is not a glob. The characters that a rule may have in its pattern open no
class, no alternatives and no escape, so every text of them is a glob. -/
inductive ConfigError where
  | duplicateType (tag : String)
  | malformedRule (line : Nat) (rule : String)
  | unknownCondition (line : Nat) (condition : String)
  | invalidParameters (line : Nat) (condition parameters : String)
deriving DecidableEq, Repr

def ConfigError.message : ConfigError → String
  | duplicateType tag => "metric type '" ++ tag ++ "' is already registered"
  | malformedRule line rule =>
    "rule " ++ toString line ++
      " does not match '<pattern> => <label> IF <condition> <params>': " ++ rule
  | unknownCondition line condition =>
    "rule " ++ toString line ++ " has unknown condition '" ++ condition ++ "'"
  | invalidParameters line condition parameters =>
    "rule " ++ toString line ++ " has invalid parameters '" ++ parameters ++ "' for condition '" ++
      condition ++ "'"

end MetricAggregation
