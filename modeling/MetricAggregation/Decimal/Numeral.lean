import MetricAggregation.Number

/-!
Decimal numerals as senders write them: an optional sign, digits with an optional point and at least one
digit beside it, and an optional power of ten. Only ASCII digits count.
-/

namespace MetricAggregation

/-- A numeral that has been read, `± digits * 10 ^ exponent`. -/
structure Numeral where
  negative : Bool
  digits : Nat
  exponent : Int
deriving DecidableEq, Repr

namespace Numeral

def digitsValue (digits : List Char) : Nat :=
  digits.foldl (fun number digit => 10 * number + (digit.toNat - '0'.toNat)) 0

/-- Splits off a leading sign; the flag says whether it was a minus. -/
def splitSign : List Char → Bool × List Char
  | '-' :: rest => (true, rest)
  | '+' :: rest => (false, rest)
  | rest => (false, rest)

/-- The digits before the point, the digits behind it, and what follows them. -/
def splitDigits (text : List Char) : List Char × List Char × List Char :=
  let whole := text.takeWhile Char.isDigit
  match text.dropWhile Char.isDigit with
  | '.' :: rest => (whole, rest.takeWhile Char.isDigit, rest.dropWhile Char.isDigit)
  | rest => (whole, [], rest)

/-- The power of ten that ends a numeral: nothing, or a mark, an optional sign and digits. -/
def power? : List Char → Option Int
  | [] => some 0
  | mark :: text =>
    if mark = 'e' || mark = 'E' then
      let (negative, digits) := splitSign text
      if digits.isEmpty || !digits.all Char.isDigit then none
      else
        let magnitude := Int.ofNat (digitsValue digits)
        some (if negative then -magnitude else magnitude)
    else none

def parse? (text : List Char) : Option Numeral :=
  let (negative, unsigned) := splitSign text
  let (whole, fraction, rest) := splitDigits unsigned
  if whole.isEmpty && fraction.isEmpty then none
  else (power? rest).map fun power =>
    ⟨negative, digitsValue (whole ++ fraction), power - Int.ofNat fraction.length⟩

variable {α : Type} [Number α]

def value (numeral : Numeral) : α :=
  let magnitude : α := Number.ofDecimal numeral.digits numeral.exponent
  if numeral.negative then -magnitude else magnitude

end Numeral

def Number.parse? {α : Type} [Number α] (text : List Char) : Option α :=
  (Numeral.parse? text).bind fun numeral =>
    let value : α := numeral.value
    if Number.isFinite value then some value else none

end MetricAggregation
