/-!
Double precision numbers by their bits: a sign, an exponent and a fraction. Two undefined values may differ
in their sign and in their fraction, which decide where they are sorted, so every operation says which
undefined value it gives. All other results are the processor's.
-/

namespace MetricAggregation

/-- A double precision number, or an infinite or undefined value. -/
structure Double where
  bits : UInt64

namespace Double

def signBit : UInt64 := 0x8000000000000000

/-- The bits of infinity, above which the magnitude of an undefined value lies. -/
def infinityBits : UInt64 := 0x7FF0000000000000

/-- The bit that the fraction of an undefined value has when it comes out of an operation. -/
def quietBit : UInt64 := 0x0008000000000000

/-- The number as the processor holds it, without the details of an undefined value. -/
def toFloat (value : Double) : Float := Float.ofBits value.bits

/-- A number that is not undefined, from how the processor holds it. -/
def ofFloat (value : Float) : Double := ⟨value.toBits⟩

def magnitude (value : Double) : UInt64 := value.bits &&& ~~~signBit

def isNegative (value : Double) : Bool := signBit ≤ value.bits

def isUndefined (value : Double) : Bool := infinityBits < value.magnitude

/-- Whether a value is infinite, of either sign. -/
def isInfinite (value : Double) : Bool := value.magnitude = infinityBits

def isFinite (value : Double) : Bool := value.magnitude < infinityBits

def indefinite : Double := ⟨signBit ||| infinityBits ||| quietBit⟩

/-- The undefined value that comes out of an operation: the first undefined one that went into it, made
quiet. -/
def undefinedFrom (operands : List Double) : Double :=
  match operands.find? isUndefined with
  | some operand => ⟨operand.bits ||| quietBit⟩
  | none => indefinite

def lift (operation : Float → Float) (value : Double) : Double :=
  let result := operation value.toFloat
  if result.isNaN then undefinedFrom [value] else ofFloat result

def lift₂ (operation : Float → Float → Float) (left right : Double) : Double :=
  let result := operation left.toFloat right.toFloat
  if result.isNaN then undefinedFrom [left, right] else ofFloat result

def ofNat (number : Nat) : Double := ofFloat (Float.ofNat number)

instance : OfScientific Double where
  ofScientific digits isFraction exponent := ofFloat (OfScientific.ofScientific digits isFraction exponent)

instance : Zero Double := ⟨0.0⟩

instance : One Double := ⟨1.0⟩

instance : NatCast Double := ⟨ofNat⟩

instance : Add Double := ⟨lift₂ (· + ·)⟩

instance : Sub Double := ⟨lift₂ (· - ·)⟩

instance : Mul Double := ⟨lift₂ (· * ·)⟩

instance : Div Double := ⟨lift₂ (· / ·)⟩

/-- The sign is turned over, also that of an undefined value. -/
instance : Neg Double := ⟨fun value => ⟨value.bits ^^^ signBit⟩⟩

/-- Order and equality are those of the numbers: the two zeros are equal, and an undefined value is neither
below, nor above, nor equal to anything. -/
instance : LT Double := ⟨fun left right => left.toFloat < right.toFloat⟩

instance : LE Double := ⟨fun left right => left.toFloat ≤ right.toFloat⟩

instance : BEq Double := ⟨fun left right => left.toFloat == right.toFloat⟩

instance : DecidableLT Double := fun left right =>
  inferInstanceAs (Decidable (left.toFloat < right.toFloat))

instance : DecidableLE Double := fun left right =>
  inferInstanceAs (Decidable (left.toFloat ≤ right.toFloat))

/-- A word whose order is an order of all doubles, from the least to the greatest, with the zeros apart:
the undefined values stand below everything else if their sign is set, and above it otherwise. -/
def orderKey (value : Double) : UInt64 :=
  if value.isNegative then 0xFFFFFFFFFFFFFFFF - value.bits else value.bits + signBit

theorem toNat_orderKey (value : Double) : value.orderKey.toNat =
    if 0x8000000000000000 ≤ value.bits.toNat then 0xFFFFFFFFFFFFFFFF - value.bits.toNat
    else 0x8000000000000000 + value.bits.toNat := by
  have bound := value.bits.toNat_lt
  have sign : signBit.toNat = 0x8000000000000000 := rfl
  have ones : (0xFFFFFFFFFFFFFFFF : UInt64).toNat = 0xFFFFFFFFFFFFFFFF := rfl
  unfold orderKey isNegative
  simp only [decide_eq_true_eq, UInt64.le_iff_toNat_le, sign]
  split <;> simp only [UInt64.toNat_sub, UInt64.toNat_add, sign, ones] <;> omega

/-- Only a double itself is at its place in the order. -/
theorem orderKey_injective : Function.Injective orderKey := by
  intro left right same
  have keys := congrArg UInt64.toNat same
  rw [toNat_orderKey, toNat_orderKey] at keys
  have leftBound := left.bits.toNat_lt
  have rightBound := right.bits.toNat_lt
  have bits : left.bits = right.bits :=
    UInt64.toNat_inj.mp (by split at keys <;> split at keys <;> omega)
  cases left
  cases right
  simp_all

end Double

end MetricAggregation
