import EntityGate.Text.Utf8

/-!
# Base 64 for addresses

The alphabet with the minus sign and the underscore, without filling. Filling, foreign
characters, a single left-over character and left-over bits that are not zero are refused.
-/

namespace EntityGate.Base64

/-- The character of six bits. -/
def symbol (value : Nat) : Char :=
  if value < 26 then Char.ofNat (65 + value)
  else if value < 52 then Char.ofNat (97 + (value - 26))
  else if value < 62 then Char.ofNat (48 + (value - 52))
  else if value = 62 then '-' else '_'

/-- The six bits of a character. -/
def symbolValue? (char : Char) : Option Nat :=
  if char.isUpper then some (char.toNat - 65)
  else if char.isLower then some (char.toNat - 97 + 26)
  else if char.isDigit then some (char.toNat - 48 + 52)
  else if char = '-' then some 62
  else if char = '_' then some 63
  else none

/-- The symbols of bytes, three bytes giving four symbols. -/
def encodeBytes : List UInt8 → List Char
  | first :: second :: third :: rest =>
    let word := 65536 * first.toNat + 256 * second.toNat + third.toNat
    symbol (word / 262144) :: symbol (word / 4096 % 64) :: symbol (word / 64 % 64) ::
      symbol (word % 64) :: encodeBytes rest
  | [first, second] =>
    let word := 256 * first.toNat + second.toNat
    [symbol (word / 1024), symbol (word / 16 % 64), symbol (word % 16 * 4)]
  | [first] => [symbol (first.toNat / 4), symbol (first.toNat % 4 * 16)]
  | [] => []

/-- The bytes of six-bit values. -/
def decodeValues : List Nat → Option (List UInt8)
  | first :: second :: third :: fourth :: rest => do
    let word := 262144 * first + 4096 * second + 64 * third + fourth
    let bytes ← decodeValues rest
    some (UInt8.ofNat (word / 65536) :: UInt8.ofNat (word / 256) :: UInt8.ofNat word :: bytes)
  | [first, second, third] =>
    let word := 4096 * first + 64 * second + third
    if word % 4 = 0 then some [UInt8.ofNat (word / 1024), UInt8.ofNat (word / 4)] else none
  | [first, second] =>
    let word := 64 * first + second
    if word % 16 = 0 then some [UInt8.ofNat (word / 16)] else none
  | [_] => none
  | [] => some []

/-- The symbols of a text's UTF-8 bytes. -/
def encode (text : String) : String :=
  String.ofList (encodeBytes (Text.encodeUtf8 text.toList))

/-- The bytes that the symbols stand for. -/
def decode? (text : String) : Option (List UInt8) := do
  let values ← text.toList.mapM symbolValue?
  decodeValues values

end EntityGate.Base64
