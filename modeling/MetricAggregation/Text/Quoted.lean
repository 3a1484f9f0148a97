import MetricAggregation.Text.Hidden

/-!
Quoted texts, in which nothing is left invisible.
-/

namespace MetricAggregation.Text

/-- A character within quotes: marks of the quoting itself, line ends and the tab have short escapes, and
any other hidden character is given by its code point. -/
def quoteChar (char : Char) : String :=
  if char = '"' then "\\\""
  else if char = '\\' then "\\\\"
  else if char = '\n' then "\\n"
  else if char = '\r' then "\\r"
  else if char = '\t' then "\\t"
  else if char.toNat = 0 then "\\0"
  else if isHidden char then "\\u\x7b" ++ String.ofList (Nat.toDigits 16 char.toNat) ++ "\x7d"
  else String.singleton char

def quote (text : String) : String :=
  "\"" ++ String.join (text.toList.map quoteChar) ++ "\""

end MetricAggregation.Text
