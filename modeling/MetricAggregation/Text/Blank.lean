/-!
Blank characters, the white space of every script, and the text between them.
-/

namespace MetricAggregation.Text

def isBlank (char : Char) : Bool :=
  let code := char.toNat
  (9 ≤ code && code ≤ 13) || code = 0x20 || code = 0x85 || code = 0xA0 || code = 0x1680 ||
    (0x2000 ≤ code && code ≤ 0x200A) || code = 0x2028 || code = 0x2029 || code = 0x202F ||
    code = 0x205F || code = 0x3000

def trimEnd (text : List Char) : List Char := (text.reverse.dropWhile isBlank).reverse

def trim (text : List Char) : List Char := trimEnd (text.dropWhile isBlank)

def blankSeparated (text : List Char) : List (List Char) :=
  (text.splitOnP isBlank).filter fun part => !part.isEmpty

end MetricAggregation.Text
