import MetricAggregation.Decimal.Numeral
import MetricAggregation.Key

/-!
Messages as senders write them: a key, a colon, and two or three fields between bars. The fields are the
value, the tag of the metric type and, for some types, one more.
-/

namespace MetricAggregation

/-- Why a message or an update is discarded. -/
inductive MessageError where
  | notUtf8
  | missingValue
  | missingType
  | fieldCount (count : Nat)
  | emptyKey
  | invalidValue (text : String)
  | invalidSampleRate (text : String)
  | invalidExtra (text : String)
  | unknownType (tag : String)
deriving DecidableEq, Repr

def MessageError.message : MessageError → String
  | notUtf8 => "message is not valid UTF-8"
  | missingValue => "missing ':' between key and value"
  | missingType => "missing '|' between value and metric type"
  | fieldCount count => "expected 2 or 3 fields after the key, got " ++ toString count
  | emptyKey => "metric key is empty"
  | invalidValue text => "invalid value '" ++ text ++ "'"
  | invalidSampleRate text => "invalid sample rate '" ++ text ++ "'"
  | invalidExtra text => "invalid extra field '" ++ text ++ "'"
  | unknownType tag => "unknown metric type '" ++ tag ++ "'"

/-- The kind of metric that a message updates. -/
inductive MetricKind where
  | counter
  | timer
  | gauge
  | meter
  | extension (tag : String)
deriving DecidableEq, Repr

namespace MetricKind

def ofTag (tag : String) : MetricKind :=
  if tag = "c" then counter
  else if tag = "ms" then timer
  else if tag = "g" then gauge
  else if tag = "m" then meter
  else extension tag

def tag : MetricKind → String
  | counter => "c"
  | timer => "ms"
  | gauge => "g"
  | meter => "m"
  | extension tag => tag

end MetricKind

/-- What a message says about its metric. -/
structure Fields where
  value : String
  tag : String
  extra : Option String
deriving DecidableEq, Repr

def Fields.toList (fields : Fields) : List String :=
  fields.value :: fields.tag :: fields.extra.toList

/-- A message whose key is fit for a path. Its value and its extra field are not interpreted yet. -/
structure Message where
  key : String
  fields : Fields
deriving DecidableEq, Repr

namespace Message

def kind (message : Message) : MetricKind := .ofTag message.fields.tag

def splitFields (data : List Char) : Except MessageError Fields :=
  match data.splitOn '|' with
  | [value, tag] => .ok ⟨String.ofList value, String.ofList tag, none⟩
  | [value, tag, extra] => .ok ⟨String.ofList value, String.ofList tag, some (String.ofList extra)⟩
  | [] => .error .missingType
  | [_] => .error .missingType
  | parts => .error (.fieldCount parts.length)

/-- Reads a line; blanks around it are ignored. -/
def parse (line : String) : Except MessageError Message := do
  let text := Text.trim line.toList
  match text.dropWhile (· ≠ ':') with
  | [] => .error .missingValue
  | _ :: data =>
    let fields ← splitFields data
    let key := Key.normalizeChars (text.takeWhile (· ≠ ':'))
    if key.isEmpty then .error .emptyKey else .ok ⟨String.ofList key, fields⟩

def rebuild (key : String) (fields : List String) : String :=
  key ++ ":" ++ String.intercalate "|" fields

end Message

variable {α : Type} [Number α]

/-- Reads a value; blanks around it are ignored. -/
def parseValue (raw : String) : Except MessageError α :=
  match Number.parse? (Text.trim raw.toList) with
  | some value => .ok value
  | none => .error (.invalidValue raw)

/-- Reads the value of a gauge or a meter, which may not have several parts. -/
def parseSingleValue (raw : String) : Except MessageError α :=
  if ':' ∈ raw.toList then .error (.invalidValue raw) else parseValue raw

def sampleRateDigits : List Char → List Char
  | '@' :: text => text.takeWhile fun char => char.isDigit || char = '.'
  | _ => []

/-- Reads the sample rate of a counter, a positive number behind an `@`. What follows its digits and
points is ignored. -/
def parseSampleRate (field : String) : Except MessageError α :=
  match Number.parse? (sampleRateDigits field.toList) with
  | some rate => if (0 : α) < rate then .ok rate else .error (.invalidSampleRate field)
  | none => .error (.invalidSampleRate field)

end MetricAggregation
