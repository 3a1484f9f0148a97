import MetricAggregation.Decimal.Layout
import MetricAggregation.Number

/-!
Doubles as the numbers that metrics are run with.
-/

namespace MetricAggregation.Double

/-- The double nearest to `digits * 10 ^ exponent`. A power of ten that takes any such number out of range
is not computed: ten has more than three and fewer than four bits. -/
def ofDecimal (digits : Nat) (exponent : Int) : Double :=
  if digits = 0 then 0
  else if 310 < exponent then ⟨infinityBits⟩
  else if 0 ≤ exponent then ofFloat (Float.ofScientific digits false exponent.toNat)
  else if digits.log2 + 1100 < 3 * (-exponent).toNat then 0
  else ofFloat (Float.ofScientific digits true (-exponent).toNat)

/-- The integer part of a double, held within an unsigned word of 64 bits. -/
def floorNat (value : Double) : Nat := value.toFloat.floor.toUInt64.toNat

/-- The written form in a report: whole numbers are written without a fraction as long as all of them can
be told apart, and everything else in the shortest form that reads back to the same value. -/
def text (value : Double) : String :=
  let number := value.toFloat
  if number.floor == number && number.abs ≤ 9007199254740992.0 then toString number.toInt64.toInt
  else Decimal.Layout.report.write value

instance : Number Double where
  toDecidableLT := inferInstance
  toDecidableLE := inferInstance
  isFinite := isFinite
  totalLE left right := decide (orderKey left ≤ orderKey right)
  ofDecimal := ofDecimal
  floorNat := floorNat
  round := lift Float.round
  exp := lift Float.exp
  exp2 := lift Float.exp2
  sqrt := lift Float.sqrt
  text := text

end MetricAggregation.Double
