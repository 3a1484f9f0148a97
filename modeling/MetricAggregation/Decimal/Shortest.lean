/-!
The shortest decimal that reads back to a given double. The double is taken apart into a significand and
a power of two; the decimals that round to it form an interval around it; and for one digit, two digits
and so on, the two neighbours of the value with that many digits are tried in exact integer arithmetic.
-/

namespace MetricAggregation.Decimal

/-- A positive number, `significand * 2 ^ exponent`, together with the interval of reals that round to it:
it ends half a unit above the number, and half a unit below it, or a quarter where the next lower number
is only half as far. -/
structure Binary where
  significand : Nat
  exponent : Int
  closeBelow : Bool

def Binary.ofBits (bits : UInt64) : Binary :=
  let fraction := bits.toNat % 0x10000000000000
  let field := bits.toNat / 0x10000000000000 % 0x800
  if field = 0 then ⟨fraction, -1074, false⟩
  else ⟨0x10000000000000 + fraction, Int.ofNat field - 1075, fraction = 0 && 1 < field⟩

/-- Which of two decimals equally near to a number is taken. -/
inductive Tie where
  | greater
  | even

/-- A positive decimal, `digits * 10 ^ exponent`. -/
structure Scaled where
  digits : Nat
  exponent : Int

def digitCount (number : Nat) : Nat := (Nat.toDigits 10 number).length

/-- The least power of ten above the positive quotient of two numbers. -/
def powerAbove (numerator denominator : Nat) : Int :=
  if denominator ≤ numerator then digitCount (numerator / denominator)
  else 1 - Int.ofNat (digitCount ((denominator - 1) / numerator))

/-- The decimal with `count` digits, out of the two around the number, that lies in its interval and is
nearer to it. `above` is the least power of ten above the number. -/
def Binary.nearestWith? (number : Binary) (tie : Tie) (above : Int) (count : Nat) : Option Scaled :=
  let power := above - Int.ofNat count
  -- In units of a quarter of the last place, scaled so that the grid of decimals is the multiples of `step`.
  let unit := Nat.pow 2 (number.exponent - 2).toNat * Nat.pow 10 (-power).toNat
  let step := Nat.pow 2 (2 - number.exponent).toNat * Nat.pow 10 power.toNat
  let value := 4 * number.significand * unit
  let least := (4 * number.significand - if number.closeBelow then 1 else 2) * unit
  let greatest := (4 * number.significand + 2) * unit
  let inside (point : Nat) : Bool :=
    if number.significand % 2 = 0 then least ≤ point && point ≤ greatest
    else least < point && point < greatest
  let lower := value / step
  let below := value - lower * step
  let beyond := (lower + 1) * step - value
  match 0 < lower && inside (lower * step), inside ((lower + 1) * step) with
  | false, false => none
  | true, false => some ⟨lower, power⟩
  | false, true => some ⟨lower + 1, power⟩
  | true, true =>
    if below < beyond then some ⟨lower, power⟩
    else if beyond < below then some ⟨lower + 1, power⟩
    else match tie with
      | .greater => some ⟨lower + 1, power⟩
      | .even => some ⟨if lower % 2 = 0 then lower else lower + 1, power⟩

/-- The decimal with the fewest digits that rounds to the number, and of those the nearest. Seventeen
digits always suffice for a double. -/
def Binary.shortest (number : Binary) (tie : Tie) : Scaled :=
  let numerator := number.significand * Nat.pow 2 number.exponent.toNat
  let denominator := Nat.pow 2 (-number.exponent).toNat
  let above := powerAbove numerator denominator
  ((List.range' 1 17).findSome? (number.nearestWith? tie above)).getD ⟨0, 0⟩

end MetricAggregation.Decimal
