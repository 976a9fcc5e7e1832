import EntityGate.Number.Binary64

/-!
# Reading numerals

Integers are an optional sign and digits. Decimal numerals are read to the nearest double: digits
with an optional point and an optional exponent, or the names of the infinities and of
not-a-number in any case. No blanks are accepted.
-/

namespace EntityGate.Numeral

/-- The value of a decimal digit. -/
def digitValue (char : Char) : Nat := char.toNat - 48

/-- The number that a list of decimal digits writes. -/
def digitsValue (digits : List Char) : Nat :=
  digits.foldl (fun value digit => 10 * value + digitValue digit) 0

/-- The number written by a non-empty list of decimal digits. -/
def natural? (chars : List Char) : Option Nat :=
  if chars.isEmpty || !chars.all Char.isDigit then none else some (digitsValue chars)

/-- The sign of a numeral, if any, and what follows it. -/
def splitSign : List Char → Bool × List Char
  | '-' :: rest => (true, rest)
  | '+' :: rest => (false, rest)
  | chars => (false, chars)

/-- A signed integer of 64 bits. -/
def signed64? (chars : List Char) : Option Int := do
  let (isNegative, digits) := splitSign chars
  let magnitude ← natural? digits
  if isNegative then
    if magnitude ≤ 2 ^ 63 then some (-(magnitude : Int)) else none
  else if magnitude < 2 ^ 63 then some (magnitude : Int) else none

/-- An unsigned integer below the given bound; a plus sign is accepted. -/
def unsignedBelow? (bound : Nat) (chars : List Char) : Option Nat := do
  let digits := match chars with
    | '+' :: rest => rest
    | _ => chars
  let magnitude ← natural? digits
  if magnitude < bound then some magnitude else none

/-- An unsigned integer of 64 bits. -/
def unsigned64? (chars : List Char) : Option Nat := unsignedBelow? (2 ^ 64) chars

/-- The integer after an exponent mark, with an optional sign. -/
def exponent? (chars : List Char) : Option Int := do
  let (isNegative, digits) := splitSign chars
  let magnitude ← natural? digits
  some (if isNegative then -(magnitude : Int) else magnitude)

/-- The double nearest to `significand * 10 ^ exponent`, where exponents far outside the range of
doubles are settled without computing the power. -/
def nearestDouble (isNegative : Bool) (significand : Nat) (digitCount : Nat) (exponent : Int) :
    Binary64 :=
  if significand = 0 then Binary64.ofMagnitude isNegative 0
  else if 400 < exponent then Binary64.infinity isNegative
  else if exponent + digitCount < -400 then Binary64.ofMagnitude isNegative 0
  else Binary64.ofDecimal isNegative significand exponent

/-- A numeral after its sign: digits, a point and an exponent. -/
def unsignedDouble? (isNegative : Bool) (chars : List Char) : Option Binary64 := do
  let whole := chars.takeWhile Char.isDigit
  let afterWhole := chars.dropWhile Char.isDigit
  let (fraction, rest) := match afterWhole with
    | '.' :: tail => (tail.takeWhile Char.isDigit, tail.dropWhile Char.isDigit)
    | tail => ([], tail)
  if whole.isEmpty && fraction.isEmpty then none
  else
    let exponent ← match rest with
      | [] => some 0
      | mark :: tail => if mark = 'e' || mark = 'E' then exponent? tail else none
    some (nearestDouble isNegative (digitsValue (whole ++ fraction))
      (whole.length + fraction.length) (exponent - fraction.length))

/-- The double nearest to a decimal numeral. -/
def double? (chars : List Char) : Option Binary64 :=
  let (isNegative, unsigned) := splitSign chars
  let name := String.ofList (unsigned.map Char.toLower)
  if name = "inf" ∨ name = "infinity" then some (Binary64.infinity isNegative)
  else if name = "nan" then some (Binary64.ofMagnitude isNegative Binary64.notANumber.magnitude)
  else unsignedDouble? isNegative unsigned

end EntityGate.Numeral
