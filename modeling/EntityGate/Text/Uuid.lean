import EntityGate.Text.Digest
import EntityGate.Text.Percent

/-!
# Universally unique identifiers

An identifier is sixteen bytes. Four notations are read: thirty-two hexadecimal digits, the form
with hyphens, that form in braces and that form after `urn:uuid:`. The form with hyphens in lower
case is the one written.
-/

namespace EntityGate

/-- A universally unique identifier. -/
structure Uuid where
  bytes : List UInt8
  deriving DecidableEq, Repr, Inhabited

namespace Uuid

/-- The bytes of pairs of hexadecimal digits. -/
def hexBytes? : List Char → Option (List UInt8)
  | high :: low :: rest => do
    let byte ← Text.hexByte? high low
    let bytes ← hexBytes? rest
    some (byte :: bytes)
  | [_] => none
  | [] => some []

/-- Removes the hyphens of the form `8-4-4-4-12`; absent when one of them is missing. -/
def dropHyphens? (chars : List Char) : Option (List Char) :=
  if chars.length = 36 ∧ chars[8]? = some '-' ∧ chars[13]? = some '-' ∧ chars[18]? = some '-' ∧
      chars[23]? = some '-' then
    some (chars.take 8 ++ (chars.drop 9).take 4 ++ (chars.drop 14).take 4 ++
      (chars.drop 19).take 4 ++ chars.drop 24)
  else none

/-- The form with hyphens inside one of its envelopes. -/
def hyphenated? (chars : List Char) : Option (List Char) :=
  if chars.length = 36 then dropHyphens? chars
  else if chars.length = 38 ∧ chars.head? = some '{' ∧ chars.getLast? = some '}' then
    dropHyphens? chars.tail.dropLast
  else if chars.length = 45 then
    (Text.afterStart? ['u', 'r', 'n', ':', 'u', 'u', 'i', 'd', ':'] chars).bind dropHyphens?
  else none

/-- The identifier that a text writes. -/
def parse? (text : String) : Option Uuid := do
  let chars := text.toList
  let digits ← if chars.length = 32 then some chars else hyphenated? chars
  let bytes ← hexBytes? digits
  some ⟨bytes⟩

/-- The form with hyphens in lower case. -/
def chars (uuid : Uuid) : List Char :=
  let digits := Digest.hexChars uuid.bytes
  digits.take 8 ++ '-' :: ((digits.drop 8).take 4 ++ '-' :: ((digits.drop 12).take 4 ++
    '-' :: ((digits.drop 16).take 4 ++ '-' :: digits.drop 20)))

/-- The form with hyphens in lower case. -/
def toText (uuid : Uuid) : String := String.ofList uuid.chars

end Uuid

end EntityGate
