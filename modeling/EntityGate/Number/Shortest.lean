import EntityGate.Number.Binary64

/-!
# Shortest decimal digits of a double

Of all decimal numbers that round to a given double, the one written is among those with the
fewest digits and is the nearest of them. For each digit count the two neighbours of the double
on the decimal grid are tested in exact arithmetic: if a point of the grid rounds to the double,
so does one of these two.
-/

namespace EntityGate

namespace Binary64

/-- The numbers that round to a finite double, scaled to integers: `low` and `high` bound the
interval around `value`, all over `denominator`, and the ends belong to it iff `closed`. -/
structure RoundingInterval where
  low : Nat
  value : Nat
  high : Nat
  denominator : Nat
  closed : Bool

/-- The interval of numbers that round to the given positive finite double. -/
def roundingInterval (double : Binary64) : RoundingInterval :=
  let (significand, exponent) := double.parts
  let lowestOfBinade : Bool := significand == 2 ^ 52 && decide (-1074 < exponent)
  let scale : Nat := if exponent < 0 then 1 else Nat.pow 2 exponent.natAbs
  let denominator : Nat := if exponent < 0 then Nat.pow 2 exponent.natAbs else 1
  { low := (4 * significand - (if lowestOfBinade then 1 else 2)) * scale
    value := 4 * significand * scale
    high := (4 * significand + 2) * scale
    denominator := 4 * denominator
    closed := significand % 2 == 0 }

/-- Whether `numerator / denominator` lies in the interval. -/
def RoundingInterval.contains (interval : RoundingInterval) (numerator denominator : Nat) : Bool :=
  let point := numerator * interval.denominator
  if interval.closed then
    decide (interval.low * denominator ≤ point) && decide (point ≤ interval.high * denominator)
  else
    decide (interval.low * denominator < point) && decide (point < interval.high * denominator)

/-- The exponent of ten of the leading digit of `numerator / denominator`, searched downward from
an upper bound. -/
def leadingPlace (numerator denominator : Nat) : Nat → Int → Int
  | 0, place => place
  | fuel + 1, place =>
    let reached : Bool :=
      if place < 0 then decide (denominator ≤ numerator * Nat.pow 10 place.natAbs)
      else decide (denominator * Nat.pow 10 place.natAbs ≤ numerator)
    if reached then place else leadingPlace numerator denominator fuel (place - 1)

/-- The neighbour on the grid of multiples of `10 ^ place` that rounds to the double and is
nearest to it, as a multiple of the grid's step. -/
def gridHit (interval : RoundingInterval) (place : Int) : Option Nat :=
  let stepNumerator : Nat := if place < 0 then 1 else Nat.pow 10 place.natAbs
  let stepDenominator : Nat := if place < 0 then Nat.pow 10 place.natAbs else 1
  let numerator := interval.value * stepDenominator
  let denominator := interval.denominator * stepNumerator
  let below := numerator / denominator
  let above := below + 1
  let belowHits := interval.contains (below * stepNumerator) stepDenominator
  let aboveHits := interval.contains (above * stepNumerator) stepDenominator
  if belowHits && aboveHits then
    let remainder := numerator % denominator
    if 2 * remainder < denominator then some below
    else if denominator < 2 * remainder then some above
    else some (below + below % 2)
  else if belowHits then some below
  else if aboveHits then some above
  else none

/-- The digits, as one number, and the exponent of ten of the last digit, tried for `count`
digits, `count + 1` digits and so on. -/
def shortestFrom (interval : RoundingInterval) (leading : Int) : Nat → Nat → Nat × Int
  | 0, count => (interval.value / interval.denominator, leading + 1 - count)
  | fuel + 1, count =>
    let place := leading + 1 - count
    match gridHit interval place with
    | some digits =>
      if digits = 0 then shortestFrom interval leading fuel (count + 1) else (digits, place)
    | none => shortestFrom interval leading fuel (count + 1)

/-- Moves trailing zeros of the digits into the exponent. -/
def dropTrailingZeros : Nat → Nat × Int → Nat × Int
  | 0, decimal => decimal
  | fuel + 1, (digits, place) =>
    if digits ≠ 0 ∧ digits % 10 = 0 then dropTrailingZeros fuel (digits / 10, place + 1)
    else (digits, place)

/-- The shortest digits of a positive finite double and the exponent of ten of the last one. -/
def shortest (double : Binary64) : Nat × Int :=
  let interval := double.roundingInterval
  let leading := leadingPlace interval.value interval.denominator 700 309
  dropTrailingZeros 20 (shortestFrom interval leading 17 1)

end Binary64

/-- How a format writes a finite double: below which exponent of the leading digit positional
notation ends on either side, and whether a positive exponent carries a sign. -/
structure DoubleFormat where
  lowestPositional : Int
  highestPositional : Int
  signedExponent : Bool

namespace DoubleFormat

/-- The decimal digits of a natural number. -/
def digits (value : Nat) : List Char := Nat.toDigits 10 value

/-- Digits with the decimal point after the first `1 + leading` of them, padded by zeros on either
side, with at least one digit on both sides of the point. -/
def positional (written : List Char) (leading : Int) : List Char :=
  if leading < 0 then
    '0' :: '.' :: (List.replicate (leading.natAbs - 1) '0' ++ written)
  else
    let whole := leading.toNat + 1
    if written.length ≤ whole then
      written ++ List.replicate (whole - written.length) '0' ++ ['.', '0']
    else written.take whole ++ '.' :: written.drop whole

/-- One digit before the point, the others after it, and the exponent of ten. -/
def scientific (format : DoubleFormat) (written : List Char) (leading : Int) : List Char :=
  let fraction := match written with
    | first :: second :: rest => first :: '.' :: second :: rest
    | short => short
  let exponent :=
    if leading < 0 then '-' :: digits leading.natAbs
    else if format.signedExponent then '+' :: digits leading.natAbs
    else digits leading.natAbs
  fraction ++ 'e' :: exponent

/-- The text of a finite double in the given format. -/
def write (format : DoubleFormat) (value : Binary64) : List Char :=
  let sign := if value.negative then ['-'] else []
  if value.magnitude = 0 then sign ++ ['0', '.', '0']
  else
    let (significand, place) := value.shortest
    let written := digits significand
    let leading : Int := place + written.length - 1
    if format.lowestPositional ≤ leading ∧ leading ≤ format.highestPositional then
      sign ++ positional written leading
    else sign ++ format.scientific written leading

end DoubleFormat

end EntityGate
