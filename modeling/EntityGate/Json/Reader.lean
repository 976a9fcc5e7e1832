import EntityGate.Json.Basic
import EntityGate.Number.Numeral

/-!
# Reading JSON

A strict reader. Control characters inside strings, unpaired surrogates, leading zeros, numbers
beyond the range of doubles, nesting deeper than 127 levels and anything after the value are
errors. Of a repeated key the last value stands at the first position; the written form that keeps
repeated keys apart is available too. An integer that fits 64
bits stays an integer; the value of every other number is its significand, rounded to a double,
scaled by one rounded power of ten at a time.
-/

namespace EntityGate.Json

/-- How many levels of arrays and objects may be open at once. -/
def maxNesting : Nat := 127

/-- Whether JSON allows the character between tokens. -/
def isSpace (char : Char) : Bool :=
  char == ' ' || char == '\n' || char == '\t' || char == '\r'

/-- What follows the white space. -/
def skipSpaces (chars : List Char) : List Char := chars.dropWhile isSpace

/-- The double that a significand below 2^64 and an exponent of ten give; absent when it is
beyond the range of doubles. An exponent below the table of powers is worked off in steps of
308. -/
def scaleDouble : Nat → Binary64 → Int → Option Binary64
  | 0, value, _ => some value
  | steps + 1, value, exponent =>
    if exponent.natAbs ≤ 308 then
      let power := Binary64.ofDecimal false 1 exponent.natAbs
      if 0 ≤ exponent then
        let product := value.mul power
        if product.isFinite then some product else none
      else some (value.div power)
    else if value.magnitude = 0 then some value
    else if 0 ≤ exponent then none
    else scaleDouble steps (value.div (Binary64.ofDecimal false 1 308)) (exponent + 308)

/-- The double of a sign, a significand and an exponent of ten. -/
def doubleOfParts? (isNegative : Bool) (significand : Nat) (exponent : Int) : Option Binary64 :=
  (scaleDouble 5 (Binary64.ofInt significand) exponent).map fun value =>
    if isNegative then value.neg else value

/-- The leading digits whose number fits 64 bits, as a number, and the digits left over. -/
def takeSignificand : Nat → List Char → Nat × List Char
  | significand, [] => (significand, [])
  | significand, digit :: rest =>
    let next := 10 * significand + Numeral.digitValue digit
    if next < 2 ^ 64 then takeSignificand next rest else (significand, digit :: rest)

/-- An exponent with its mark, or nothing; the first part is absent when there is no mark. -/
def readExponent (chars : List Char) : Option (Option Int × List Char) :=
  match chars with
  | mark :: tail =>
    if mark = 'e' ∨ mark = 'E' then
      let (isNegative, unsigned) := Numeral.splitSign tail
      let digits := unsigned.takeWhile Char.isDigit
      if digits.isEmpty then none
      else
        let magnitude : Int := Numeral.digitsValue digits
        some (some (if isNegative then -magnitude else magnitude), unsigned.dropWhile Char.isDigit)
    else some (none, chars)
  | [] => some (none, [])

/-- A number from its whole digits, its fraction digits and its exponent. -/
def numberOfParts (isNegative : Bool) (whole fraction : List Char) (exponent : Option Int) :
    Option JsonNumber :=
  let (wholePart, wholeLeft) := takeSignificand 0 whole
  if fraction.isEmpty && exponent.isNone && wholeLeft.isEmpty then
    let value : Int := if isNegative then -(wholePart : Int) else wholePart
    if isNegative && (wholePart == 0 || decide (2 ^ 63 < wholePart)) then
      (doubleOfParts? isNegative wholePart 0).map .double
    else some (.int value)
  else
    let (significand, fractionLeft) := takeSignificand wholePart fraction
    let used := fraction.length - fractionLeft.length
    let scale : Int := (wholeLeft.length : Int) - used
    match exponent with
    | none => (doubleOfParts? isNegative significand scale).map .double
    | some power =>
      if power.natAbs < 2 ^ 31 then
        (doubleOfParts? isNegative significand (scale + power)).map .double
      else if significand ≠ 0 ∧ 0 ≤ power then none
      else some (.double (Binary64.ofMagnitude isNegative 0))

/-- A number at the start of the text. -/
def readNumber (chars : List Char) : Option (JsonNumber × List Char) := do
  let (isNegative, unsigned) := match chars with
    | '-' :: rest => (true, rest)
    | _ => (false, chars)
  let whole := unsigned.takeWhile Char.isDigit
  let afterWhole := unsigned.dropWhile Char.isDigit
  if whole.isEmpty || (whole.head? == some '0' && 1 < whole.length) then none
  else
    let (fraction, afterFraction) ← match afterWhole with
      | '.' :: tail =>
        let digits := tail.takeWhile Char.isDigit
        if digits.isEmpty then none else some (digits, tail.dropWhile Char.isDigit)
      | tail => some ([], tail)
    let (exponent, rest) ← readExponent afterFraction
    let number ← numberOfParts isNegative whole fraction exponent
    some (number, rest)

/-- The value of a hexadecimal digit. -/
def hexValue? (char : Char) : Option Nat :=
  if char.isDigit then some (char.toNat - 48)
  else if 'a' ≤ char ∧ char ≤ 'f' then some (char.toNat - 87)
  else if 'A' ≤ char ∧ char ≤ 'F' then some (char.toNat - 55)
  else none

/-- Four hexadecimal digits. -/
def readHex4 : List Char → Option (Nat × List Char)
  | first :: second :: third :: fourth :: rest => do
    let a ← hexValue? first
    let b ← hexValue? second
    let c ← hexValue? third
    let d ← hexValue? fourth
    some (4096 * a + 256 * b + 16 * c + d, rest)
  | _ => none

/-- The character written by the code units after `\u`, where a pair of surrogates is one
character and a single one is an error. -/
def readUnit (chars : List Char) : Option (Char × List Char) := do
  let (unit, rest) ← readHex4 chars
  if 0xDC00 ≤ unit ∧ unit ≤ 0xDFFF then none
  else if 0xD800 ≤ unit ∧ unit ≤ 0xDBFF then
    match rest with
    | '\\' :: 'u' :: tail =>
      let (low, after) ← readHex4 tail
      if 0xDC00 ≤ low ∧ low ≤ 0xDFFF then
        some (Char.ofNat (0x10000 + (unit - 0xD800) * 0x400 + (low - 0xDC00)), after)
      else none
    | _ => none
  else some (Char.ofNat unit, rest)

/-- The character written by the letter after a backslash. -/
def simpleEscape? : Char → Option Char
  | '"' => some '"'
  | '\\' => some '\\'
  | '/' => some '/'
  | 'b' => some '\x08'
  | 'f' => some '\x0c'
  | 'n' => some '\n'
  | 'r' => some '\r'
  | 't' => some '\t'
  | _ => none

/-- The characters up to the closing quote; the collected ones come in reverse. -/
def readString : Nat → List Char → List Char → Option (String × List Char)
  | 0, _, _ => none
  | _, _, [] => none
  | _, collected, '"' :: rest => some (String.ofList collected.reverse, rest)
  | fuel + 1, collected, '\\' :: 'u' :: rest => do
    let (char, after) ← readUnit rest
    readString fuel (char :: collected) after
  | fuel + 1, collected, '\\' :: letter :: rest => do
    let char ← simpleEscape? letter
    readString fuel (char :: collected) rest
  | fuel + 1, collected, char :: rest =>
    if char = '\\' ∨ char.toNat < 32 then none else readString fuel (char :: collected) rest

mutual

/-- A value at the start of the text, with the given number of levels still allowed. -/
def readValue : Nat → Nat → List Char → Option (Json × List Char)
  | 0, _, _ => none
  | fuel + 1, levels, chars =>
    match skipSpaces chars with
    | 'n' :: 'u' :: 'l' :: 'l' :: rest => some (.null, rest)
    | 't' :: 'r' :: 'u' :: 'e' :: rest => some (.bool true, rest)
    | 'f' :: 'a' :: 'l' :: 's' :: 'e' :: rest => some (.bool false, rest)
    | '"' :: rest => (readString (rest.length + 1) [] rest).map fun read => (.string read.1, read.2)
    | '[' :: rest =>
      match levels with
      | 0 => none
      | levels + 1 =>
        match skipSpaces rest with
        | ']' :: after => some (.array [], after)
        | items => readItems fuel levels [] items
    | '{' :: rest =>
      match levels with
      | 0 => none
      | levels + 1 =>
        match skipSpaces rest with
        | '}' :: after => some (.object [], after)
        | fields => readFields fuel levels [] fields
    | other => (readNumber other).map fun read => (.number read.1, read.2)

/-- The items of an array from one item on; the collected ones come in reverse. -/
def readItems : Nat → Nat → List Json → List Char → Option (Json × List Char)
  | 0, _, _, _ => none
  | fuel + 1, levels, collected, chars => do
    let (item, rest) ← readValue fuel levels chars
    match skipSpaces rest with
    | ',' :: after => readItems fuel levels (item :: collected) after
    | ']' :: after => some (.array (item :: collected).reverse, after)
    | _ => none

/-- The fields of an object from one field on; the collected ones come in reverse. -/
def readFields : Nat → Nat → JsonFields → List Char → Option (Json × List Char)
  | 0, _, _, _ => none
  | fuel + 1, levels, collected, chars =>
    match skipSpaces chars with
    | '"' :: quoted => do
      let (key, afterKey) ← readString (quoted.length + 1) [] quoted
      match skipSpaces afterKey with
      | ':' :: valueText =>
        let (value, rest) ← readValue fuel levels valueText
        let fields := (key, value) :: collected
        match skipSpaces rest with
        | ',' :: after => readFields fuel levels fields after
        | '}' :: after => some (.object fields.reverse, after)
        | _ => none
      | _ => none
    | _ => none

end

mutual

/-- The value with each key once in every object: the last value at the first position. -/
def mergeKeys : Json → Json
  | .array items => .array (mergeItems items)
  | .object fields => .object (mergeFields fields [])
  | scalar => scalar

/-- The items with merged keys. -/
def mergeItems : List Json → List Json
  | [] => []
  | item :: items => mergeKeys item :: mergeItems items

/-- The fields inserted one after the other, with merged keys inside. -/
def mergeFields : List (String × Json) → JsonFields → JsonFields
  | [], merged => merged
  | (key, value) :: fields, merged => mergeFields fields (merged.insert key (mergeKeys value))

end

/-- The value that the whole text writes, with repeated keys kept apart. -/
def readWritten? (text : String) : Option Json := do
  let chars := text.toList
  let (value, rest) ← readValue (2 * chars.length + 2) maxNesting chars
  if (skipSpaces rest).isEmpty then some value else none

/-- The value that the whole text writes. -/
def read? (text : String) : Option Json := (readWritten? text).map mergeKeys

end EntityGate.Json
