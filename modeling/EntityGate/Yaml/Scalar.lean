import EntityGate.Json.Basic
import EntityGate.Number.Numeral

/-!
# Plain scalars of YAML

What the core schema makes of a scalar without quotes: null, a truth value, an integer, a double or
a text.
-/

namespace EntityGate.Yaml

/-- Whether the plain scalar stands for null. -/
def isNull (scalar : String) : Bool :=
  scalar.isEmpty || ["null", "Null", "NULL", "~"].contains scalar

/-- The truth value of a plain scalar. -/
def truth? (scalar : String) : Option Bool :=
  if ["true", "True", "TRUE"].contains scalar then some true
  else if ["false", "False", "FALSE"].contains scalar then some false
  else none

/-- The value of a digit in a base of at most 16. -/
def digit? (base : Nat) (char : Char) : Option Nat :=
  let value :=
    if char.isDigit then char.toNat - '0'.toNat
    else if 'a' ≤ char ∧ char ≤ 'f' then char.toNat - 'a'.toNat + 10
    else if 'A' ≤ char ∧ char ≤ 'F' then char.toNat - 'A'.toNat + 10
    else 16
  if value < base then some value else none

/-- The number that digits of a base write, up to 64 bits. -/
def digits? (base : Nat) (chars : List Char) : Option Nat := do
  if chars.isEmpty then none
  let values ← chars.mapM (digit? base)
  let value := values.foldl (fun total digit => base * total + digit) 0
  if value < 2 ^ 64 then some value else none

/-- Whether the characters are digits after a leading zero, which write a text. -/
def isZeroLed : List Char → Bool
  | '0' :: next :: rest => (next :: rest).all Char.isDigit
  | _ => false

/-- The magnitude of an integer without a sign: after a mark of the base, else decimal. -/
def magnitude? (chars : List Char) : Option Nat :=
  let marked := match chars with
    | '0' :: 'x' :: rest => digits? 16 rest
    | '0' :: 'o' :: rest => digits? 8 rest
    | '0' :: 'b' :: rest => digits? 2 rest
    | _ => none
  match marked with
  | some value => some value
  | none => if isZeroLed chars then none else digits? 10 chars

/-- The unsigned integer of 64 bits that a plain scalar writes. -/
def natural? (scalar : String) : Option Nat :=
  match scalar.toList with
  | '+' :: rest => magnitude? rest
  | chars => magnitude? chars

/-- The integer that a plain scalar writes. -/
def integer? (scalar : String) : Option Int :=
  match scalar.toList with
  | '-' :: rest =>
    (magnitude? rest).bind fun value => if value ≤ 2 ^ 63 then some (-(value : Int)) else none
  | _ => (natural? scalar).map Int.ofNat

/-- The digits of a plain scalar after its sign. -/
def unsignedPart : List Char → List Char
  | '-' :: rest | '+' :: rest => rest
  | chars => chars

/-- The finite double that a plain scalar writes. -/
def double? (scalar : String) : Option Binary64 :=
  if isZeroLed (unsignedPart scalar.toList) then none
  else (Numeral.double? scalar.toList).filter Binary64.isFinite

/-- The names of the doubles that are not finite. -/
def infinities : List String :=
  [".inf", ".Inf", ".INF", "+.inf", "+.Inf", "+.INF", "-.inf", "-.Inf", "-.INF", ".nan", ".NaN",
    ".NAN"]

/-- The JSON value of a plain scalar; a double that is not finite has none and becomes null. -/
def toJson (scalar : String) : Json :=
  if isNull scalar || infinities.contains scalar then .null
  else
    match truth? scalar, integer? scalar, double? scalar with
    | some value, _, _ => .bool value
    | none, some value, _ => Json.ofInt value
    | none, none, some value => .number (.double value)
    | none, none, none => .string scalar

end EntityGate.Yaml
