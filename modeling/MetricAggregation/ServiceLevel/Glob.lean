/-!
Globs: patterns in which `?` stands for any one byte and `*` for any run of bytes. A pattern is compared
with a whole text, byte by byte.
-/

namespace MetricAggregation

namespace Glob

/-- What stands for one part of a text. -/
inductive Part where
  | byte (literal : UInt8)
  | anyByte
  | anyRun

def Part.ofByte (byte : UInt8) : Part :=
  if byte = 0x2A then anyRun else if byte = 0x3F then anyByte else .byte byte

/-- From whether each end of a text is matched by the rest of a pattern, whether it is matched by any run
and that rest. Ends are listed from the whole text to the empty one. -/
def skipRun : List Bool → List Bool
  | [] => []
  | matched :: shorter =>
    let skipped := skipRun shorter
    (matched || skipped.headD false) :: skipped

/-- From whether each end of a text is matched by the rest of a pattern, whether it is matched by a part
and that rest. -/
def Part.before (part : Part) (text : List UInt8) (matched : List Bool) : List Bool :=
  match part with
  | .byte literal => text.zipWith (fun next rest => next = literal && rest) (matched.drop 1) ++ [false]
  | .anyByte => matched.drop 1 ++ [false]
  | .anyRun => skipRun matched

/-- Whether a pattern matches a text. The empty pattern matches only the empty end of it. -/
def matchesBytes (pattern text : List UInt8) : Bool :=
  let atEnd := List.replicate text.length false ++ [true]
  let matched := pattern.foldr (fun byte rest => (Part.ofByte byte).before text rest) atEnd
  matched.headD false

end Glob

def globMatches (pattern path : String) : Bool :=
  Glob.matchesBytes pattern.toUTF8.toList path.toUTF8.toList

end MetricAggregation
