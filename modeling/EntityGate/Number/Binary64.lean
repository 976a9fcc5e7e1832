/-!
# Double-precision numbers

A double is its 64-bit word. Comparison reads the word as a signed integer, because the words of
the non-negative doubles are ordered as the numbers they stand for. Rounding takes an exact
quotient of natural numbers to the nearest double, a tie going to the even significand, so no
machine arithmetic is involved anywhere.
-/

namespace EntityGate

-- A power written with a numeral is the one of the core library, whatever is imported beside it.
attribute [default_instance 20000] instPowNat

/-- A double-precision number, given by its interchange word. -/
structure Binary64 where
  bits : UInt64
  deriving DecidableEq, Repr, Inhabited

namespace Binary64

/-- Whether the sign bit is set. -/
def negative (value : Binary64) : Bool :=
  decide (2 ^ 63 ≤ value.bits.toNat)

/-- The word without its sign bit. -/
def magnitude (value : Binary64) : Nat :=
  value.bits.toNat % 2 ^ 63

/-- The word of positive infinity. -/
def infiniteMagnitude : Nat := 0x7FF0000000000000

/-- The double with a given sign and a given word below the sign bit. -/
def ofMagnitude (isNegative : Bool) (magnitude : Nat) : Binary64 :=
  ⟨UInt64.ofNat ((if isNegative then 2 ^ 63 else 0) + magnitude % 2 ^ 63)⟩

/-- The quiet not-a-number that reading `nan` gives. -/
def notANumber : Binary64 := ofMagnitude false 0x7FF8000000000000

/-- An infinity of the given sign. -/
def infinity (isNegative : Bool) : Binary64 := ofMagnitude isNegative infiniteMagnitude

/-- Whether the word stands for no number at all. -/
def isNaN (value : Binary64) : Bool :=
  decide (infiniteMagnitude < value.magnitude)

/-- Whether the word stands for a real number. -/
def isFinite (value : Binary64) : Bool :=
  decide (value.magnitude < infiniteMagnitude)

/-- The integer by which two numbers compare; both zeros have the key zero. -/
def orderKey (value : Binary64) : Int :=
  if value.negative then -(value.magnitude : Int) else value.magnitude

/-- The order of two doubles, absent as soon as one of them is not a number. -/
def compare? (left right : Binary64) : Option Ordering :=
  if left.isNaN || right.isNaN then none
  else some (compare left.orderKey right.orderKey)

/-- Numeric equality, under which the two zeros are equal and a not-a-number equals nothing. -/
def numEq (left right : Binary64) : Bool :=
  left.compare? right == some .eq

/-- The significand and the exponent of two of a finite double, sign aside. -/
def parts (value : Binary64) : Nat × Int :=
  let exponentField : Nat := value.magnitude / 2 ^ 52
  let fraction : Nat := value.magnitude % 2 ^ 52
  if exponentField = 0 then (fraction, -1074)
  else (2 ^ 52 + fraction, (exponentField : Int) - 1075)

/-- The absolute value of a finite double as an exact quotient. -/
def ratio (value : Binary64) : Nat × Nat :=
  let (significand, exponent) := value.parts
  if exponent < 0 then (significand, Nat.pow 2 exponent.natAbs)
  else (significand * Nat.pow 2 exponent.natAbs, 1)

/-- The natural number nearest to a quotient, a tie going to the even one. -/
def roundQuotient (numerator denominator : Nat) : Nat :=
  let quotient := numerator / denominator
  let remainder := numerator % denominator
  if denominator < 2 * remainder then quotient + 1
  else if 2 * remainder = denominator then quotient + quotient % 2
  else quotient

/-- The exponent of two under which the quotient has 53 significant bits, not below the
exponent of the subnormal numbers. -/
def unitExponent (numerator denominator : Nat) : Int :=
  let estimate : Int := (numerator.log2 : Int) - (denominator.log2 : Int)
  let reached : Bool :=
    if estimate < 0 then decide (denominator ≤ numerator * Nat.pow 2 estimate.natAbs)
    else decide (denominator * Nat.pow 2 estimate.natAbs ≤ numerator)
  let leading := if reached then estimate else estimate - 1
  max (leading - 52) (-1074)

/-- The word of the double nearest to a positive quotient; beyond the largest double it is the
word of infinity. -/
def roundedMagnitude (numerator denominator : Nat) : Nat :=
  if numerator = 0 then 0
  else
    let exponent := unitExponent numerator denominator
    let significand :=
      if exponent < 0 then roundQuotient (numerator * Nat.pow 2 exponent.natAbs) denominator
      else roundQuotient numerator (denominator * Nat.pow 2 exponent.natAbs)
    min ((exponent + 1074).toNat * 2 ^ 52 + significand) infiniteMagnitude

/-- The double nearest to a signed quotient. -/
def ofRatio (isNegative : Bool) (numerator denominator : Nat) : Binary64 :=
  ofMagnitude isNegative (roundedMagnitude numerator denominator)

/-- The double nearest to an integer. -/
def ofInt (value : Int) : Binary64 :=
  ofRatio (decide (value < 0)) value.natAbs 1

/-- The double nearest to `significand * 10 ^ exponent`. -/
def ofDecimal (isNegative : Bool) (significand : Nat) (exponent : Int) : Binary64 :=
  if exponent < 0 then ofRatio isNegative significand (Nat.pow 10 exponent.natAbs)
  else ofRatio isNegative (significand * Nat.pow 10 exponent.natAbs) 1

/-- The rounded product of two finite doubles. -/
def mul (left right : Binary64) : Binary64 :=
  let (leftNumerator, leftDenominator) := left.ratio
  let (rightNumerator, rightDenominator) := right.ratio
  ofRatio (left.negative != right.negative) (leftNumerator * rightNumerator)
    (leftDenominator * rightDenominator)

/-- The rounded quotient of a finite double by a finite double that is not zero. -/
def div (left right : Binary64) : Binary64 :=
  let (leftNumerator, leftDenominator) := left.ratio
  let (rightNumerator, rightDenominator) := right.ratio
  ofRatio (left.negative != right.negative) (leftNumerator * rightDenominator)
    (leftDenominator * rightNumerator)

/-- The same magnitude with the other sign. -/
def neg (value : Binary64) : Binary64 :=
  ofMagnitude (!value.negative) value.magnitude

/-- The eight bytes of the word, most significant first. -/
def bytes (value : Binary64) : List UInt8 :=
  (List.range 8).map fun position => UInt8.ofNat (value.bits.toNat / Nat.pow 2 (8 * (7 - position)))

end Binary64

end EntityGate
