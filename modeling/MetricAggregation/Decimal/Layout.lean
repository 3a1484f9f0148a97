import MetricAggregation.Decimal.Shortest
import MetricAggregation.Double.Basic

/-!
How a double is written: its shortest decimal, set out with a point or with a power of ten. Each way of
setting it out is one `Layout`.
-/

namespace MetricAggregation.Decimal

/-- The decisions of a written form. A number whose first digit stands `n` places before the point, so
that the number is `0.d₁d₂… * 10 ^ n`, is written with a point if `n` lies in the positional range, and
with a power of ten otherwise. -/
structure Layout where
  least : Int
  greatest : Option Int
  /-- What follows the digits of a whole number. -/
  wholeEnd : String
  tie : Tie

/-- A reading of a clock and its like, as a developer reads them: from a ten-thousandth up to sixteen
digits before the point positional, and always with a fraction. -/
def Layout.debug : Layout := ⟨-3, some 16, ".0", .greater⟩

/-- A number within a label: always positional, and without a fraction if it is whole. -/
def Layout.label : Layout := ⟨-400, none, "", .greater⟩

/-- A number in a report: from a hundred-thousandth up to sixteen digits before the point positional. -/
def Layout.report : Layout := ⟨-4, some 16, ".0", .even⟩

/-- Whether a number whose first digit stands `place` places before the point is written with a point. -/
def Layout.isPositional (layout : Layout) (place : Int) : Bool :=
  layout.least ≤ place && layout.greatest.all (place ≤ ·)

/-- Sets out digits without trailing zeros, the first standing `place` places before the point. -/
def Layout.arrange (layout : Layout) (digits : List Char) (place : Int) : String :=
  if layout.isPositional place then
    if place ≤ 0 then "0." ++ String.ofList (List.replicate (-place).toNat '0' ++ digits)
    else
      let whole := digits.take place.toNat
      let fraction := digits.drop place.toNat
      let padding := List.replicate (place.toNat - digits.length) '0'
      String.ofList (whole ++ padding) ++
        if fraction.isEmpty then layout.wholeEnd else "." ++ String.ofList fraction
  else
    let mantissa := String.ofList (digits.take 1) ++
      if 1 < digits.length then "." ++ String.ofList (digits.drop 1) else ""
    mantissa ++ "e" ++ toString (place - 1)

def Layout.writeScaled (layout : Layout) (scaled : Scaled) : String :=
  let digits := Nat.toDigits 10 scaled.digits
  let significant := (digits.reverse.dropWhile (· = '0')).reverse
  layout.arrange significant (scaled.exponent + Int.ofNat digits.length)

def Layout.write (layout : Layout) (value : Double) : String :=
  let sign := if value.isNegative then "-" else ""
  if value.isUndefined then "NaN"
  else if value.isInfinite then sign ++ "inf"
  else if value.magnitude = 0 then sign ++ "0" ++ layout.wholeEnd
  else sign ++ layout.writeScaled ((Binary.ofBits value.bits).shortest layout.tie)

end MetricAggregation.Decimal
