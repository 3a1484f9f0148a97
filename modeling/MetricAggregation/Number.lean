/-!
The arithmetic that aggregation is written over. Every metric is generic in its number type: double
precision numbers run it, and an ordered field reads the same definitions exactly.
-/

namespace MetricAggregation

/-- Numbers with the operations that the metrics use. Only `isFinite` and `totalLE` look at how a number
is represented: rounding, overflow and the place of a value that is not a number are left to the type. -/
class Number (α : Type) extends Zero α, One α, NatCast α, Add α, Sub α, Mul α, Div α, Neg α, LT α, LE α where
  /-- Whether a number lies below another can be decided. -/
  toDecidableLT : DecidableLT α
  /-- Whether a number is at most another can be decided. -/
  toDecidableLE : DecidableLE α
  /-- Neither infinite nor undefined. -/
  isFinite : α → Bool
  /-- An order in which any two representations can be compared, also where `≤` says nothing. -/
  totalLE : α → α → Bool
  /-- The number nearest to a count of a power of ten, `digits * 10 ^ exponent`. -/
  ofDecimal : Nat → Int → α
  /-- The integer part of a number; none below zero. -/
  floorNat : α → Nat
  /-- The nearest integer, halves away from zero. -/
  round : α → α
  /-- The exponential function. -/
  exp : α → α
  /-- The power of two. -/
  exp2 : α → α
  /-- The square root. -/
  sqrt : α → α
  /-- The written form of a finite number in a report. -/
  text : α → String

namespace Number

variable {α : Type} [Number α]

instance : DecidableLT α := Number.toDecidableLT

instance : DecidableLE α := Number.toDecidableLE

/-- Values are rounded to six decimal places before they are reported; one too large for that stays as
it is. -/
def roundToMicro (value : α) : α :=
  let rounded := round (value * ofDecimal 1 6) / ofDecimal 1 6
  if isFinite rounded then rounded else value

end Number

end MetricAggregation
