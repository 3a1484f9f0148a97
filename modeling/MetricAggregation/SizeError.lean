/-!
Sizes that cannot be served.
-/

namespace MetricAggregation

/-- Why something cannot be set up with the size that was asked for. -/
inductive SizeError where
  | emptyReservoir
  | noHashes
  | noBuckets
  | payloadTooShort (least : Nat)
deriving DecidableEq, Repr

def SizeError.message : SizeError → String
  | emptyReservoir => "reservoir capacity must be greater than zero"
  | noHashes => "distinct counter needs at least one hash function"
  | noBuckets => "distinct counter needs at least one bucket"
  | payloadTooShort least =>
    "maximum payload length is too small to allow any datapoints to be written (must be " ++
      toString least ++ " or greater)"

end MetricAggregation
