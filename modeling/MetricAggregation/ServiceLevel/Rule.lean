import MetricAggregation.ConfigError
import MetricAggregation.Decimal.Numeral
import MetricAggregation.ServiceLevel.Glob
import MetricAggregation.Text.Blank
import MetricAggregation.Text.Word

/-!
Service level rules: which conditions the measurements of a metric are held against. A rule is a line
`<pattern> => <label> IF <condition> <parameters>`.
-/

namespace MetricAggregation

/-- What a measured value of an operation of some size is asked for. A threshold may grow with the size. -/
inductive Condition (α : Type) where
  | below (value slope : α)
  | above (value slope : α)
  | between (low high : α)

namespace Condition

variable {α : Type} [Number α]

/-- Whether a value measured for an operation of some size meets a condition. -/
def isMet (condition : Condition α) (value size : α) : Bool :=
  match condition with
  | below threshold slope => value < threshold + slope * size
  | above threshold slope => threshold + slope * size < value
  | between low high => low < value && value < high

/-- The condition that a name and some numbers stand for, or how they fail to. -/
def ofParameters (line : Nat) (name parameters : List Char) (numbers : List α) :
    Except ConfigError (Condition α) :=
  let invalid := .error
    (.invalidParameters line (String.ofList name) (String.ofList (Text.trim parameters)))
  if name = "below".toList then
    match numbers with
    | [value] => .ok (.below value 0)
    | [value, slope] => .ok (.below value slope)
    | _ => invalid
  else if name = "above".toList then
    match numbers with
    | [value] => .ok (.above value 0)
    | [value, slope] => .ok (.above value slope)
    | _ => invalid
  else if name = "between".toList then
    match numbers with
    | [low, high] => .ok (.between low high)
    | _ => invalid
  else .error (.unknownCondition line (String.ofList name))

/-- Reads a condition. Its parameters have to be finite numbers, whatever its name. -/
def parse (line : Nat) (name parameters : List Char) : Except ConfigError (Condition α) :=
  match (Text.blankSeparated parameters).mapM Number.parse? with
  | some numbers => ofParameters line name parameters numbers
  | none => .error
      (.invalidParameters line (String.ofList name) (String.ofList (Text.trim parameters)))

end Condition

/-- The parts of a line that has the shape of a rule. -/
structure RuleShape where
  pattern : List Char
  label : List Char
  condition : List Char
  parameters : List Char
deriving DecidableEq, Repr

namespace RuleShape

/-- Characters that a pattern is made of. All but the star and the question mark stand for themselves. -/
def isPatternChar (char : Char) : Bool :=
  Text.isWord char || char = '.' || char = '*' || char = '?' || char = '-'

/-- The rest of a text behind a mark that it starts with. -/
def behind? (mark text : List Char) : Option (List Char) :=
  if mark.isPrefixOf text then some (text.drop mark.length) else none

/-- The longest start of a text in a class of characters, and the rest, if the start is not empty. -/
def leading? (inClass : Char → Bool) (text : List Char) : Option (List Char × List Char) :=
  let start := text.takeWhile inClass
  if start.isEmpty then none else some (start, text.dropWhile inClass)

/-- Takes a line apart, if it has the shape of a rule. -/
def parse? (text : List Char) : Option RuleShape := do
  let (pattern, text) ← leading? isPatternChar text
  let text ← behind? " => ".toList text
  let (label, text) ← leading? Text.isWord text
  let text ← behind? " IF ".toList text
  let (condition, parameters) ← leading? Text.isWord text
  if '\n' ∈ parameters then none else some ⟨pattern, label, condition, parameters⟩

end RuleShape

/-- A rule: the metrics whose paths match the pattern get the condition, under the label. -/
structure Rule (α : Type) where
  pattern : String
  label : String
  condition : Condition α

namespace Rule

variable {α : Type} [Number α]

/-- Reads a line as a rule; errors give its number. -/
def parse (line : Nat) (text : List Char) : Except ConfigError (Rule α) :=
  match RuleShape.parse? text with
  | none => .error (.malformedRule line (String.ofList text))
  | some shape =>
    (Condition.parse line shape.condition shape.parameters).map fun condition =>
      ⟨String.ofList shape.pattern, String.ofList shape.label, condition⟩

/-- The lines of a text that hold rules: without the blanks around them, they are not empty. -/
def ruleLines (text : String) : List (List Char) :=
  ((text.toList.splitOn '\n').map Text.trim).filter fun line => !line.isEmpty

/-- Reads the rules of a text, one a line; the first line that is not a rule decides the error. Only the
lines that hold something are numbered. -/
def parseAll (text : String) : Except ConfigError (List (Rule α)) :=
  (ruleLines text).zipIdx.mapM fun entry => parse entry.2 entry.1

end Rule

abbrev Conditions (α : Type) := List (String × Condition α)

/-- Sets the condition of a label, in its place if it has one and at the end otherwise. -/
def Conditions.set {α : Type} (conditions : Conditions α) (label : String) (condition : Condition α) :
    Conditions α :=
  match conditions with
  | [] => [(label, condition)]
  | (other, old) :: rest =>
    if other = label then (label, condition) :: rest
    else (other, old) :: Conditions.set rest label condition

/-- The conditions that rules give to the metric at a path, if patterns are matched with paths in some way.
Of rules with one label the last one counts. -/
def Conditions.ofMatching {α : Type} (isMatch : String → String → Bool) (rules : List (Rule α))
    (path : String) : Conditions α :=
  (rules.filter fun rule => isMatch rule.pattern path).foldl
    (fun conditions rule => conditions.set rule.label rule.condition) []

/-- The conditions that rules give to the metric at a path. Their patterns are globs. -/
def Conditions.ofRules {α : Type} (rules : List (Rule α)) (path : String) : Conditions α :=
  .ofMatching globMatches rules path

end MetricAggregation
