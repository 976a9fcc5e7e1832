import EntityGate.Text.Blank
import EntityGate.Text.Utf8

/-!
# Percent-encoded text

Percent decoding of a path segment and of the parameters of a query string. A percent sign that
is not followed by two hexadecimal digits stands for itself.
-/

namespace EntityGate.Text

/-- The value of a hexadecimal digit. -/
def hexDigitValue? (char : Char) : Option Nat :=
  if char.isDigit then some (char.toNat - 48)
  else if 'a' ≤ char ∧ char ≤ 'f' then some (char.toNat - 87)
  else if 'A' ≤ char ∧ char ≤ 'F' then some (char.toNat - 55)
  else none

/-- The byte written by two hexadecimal digits. -/
def hexByte? (high low : Char) : Option UInt8 := do
  let highValue ← hexDigitValue? high
  let lowValue ← hexDigitValue? low
  some (UInt8.ofNat (16 * highValue + lowValue))

/-- The bytes that a text with percent signs stands for. -/
def percentBytes : List Char → List UInt8
  | '%' :: high :: low :: rest =>
    match hexByte? high low with
    | some byte => byte :: percentBytes rest
    | none => 0x25 :: percentBytes (high :: low :: rest)
  | char :: rest => String.utf8EncodeChar char ++ percentBytes rest
  | [] => []

/-- A part of a form parameter: a plus sign is a blank, and ill-formed text is replaced. -/
def decodeFormPart (chars : List Char) : String :=
  let spaced := chars.map fun char => if char = '+' then ' ' else char
  String.ofList (decodeUtf8Lossy (percentBytes spaced))

/-- A parameter: what stands before and after the first equals sign. -/
def decodeParameter (chars : List Char) : String × String :=
  match cutChars? '=' chars with
  | some (name, value) => (decodeFormPart name, decodeFormPart value)
  | none => (decodeFormPart chars, "")

/-- The decoded parameters of a query string in their order; empty pieces are skipped. -/
def decodeForm (query : String) : List (String × String) :=
  ((splitChars (· == '&') query.toList).filter fun piece => !piece.isEmpty).map decodeParameter

/-- A percent-encoded path segment; absent when its bytes are no UTF-8. -/
def decodeSegment? (chars : List Char) : Option String :=
  (decodeUtf8? (percentBytes chars)).map String.ofList

end EntityGate.Text
