import MetricAggregation.Text.Blank

/-!
Metric keys. A sender may write anything for a key; what is kept of it can stand in a path.
-/

namespace MetricAggregation.Key

/-- Whether a character may stand in a key: an ASCII letter or digit, or one of `_`, `.` and `-`. -/
def isAllowed (char : Char) : Bool :=
  char.isAlphanum || char = '_' || char = '.' || char = '-'

/-- Puts `mark` in the place of every longest run of characters from a class; it takes the place of the
run's last character. -/
def collapse (inClass : Char → Bool) (mark : Char) : List Char → List Char
  | [] => []
  | char :: rest =>
    if inClass char then
      if rest.head?.any inClass then collapse inClass mark rest
      else mark :: collapse inClass mark rest
    else char :: collapse inClass mark rest

/-- The characters of a key, from those that were written for it: blanks become `_`, slashes become `-`,
a run of either becomes one of them, and no other character is let through. -/
def normalizeChars (raw : List Char) : List Char :=
  (collapse (· = '/') '-' (collapse Text.isBlank '_' raw)).filter isAllowed

def normalize (raw : String) : String := String.ofList (normalizeChars raw.toList)

end MetricAggregation.Key
