import EntityGate.Json.Reader
import EntityGate.Text.Utf8

/-!
# Skipping what is not asked for

A record that is read from a text takes the fields that it knows and skips all others. Of what is
skipped only the outline of JSON is asked: its numbers may be beyond the range of doubles, its texts
may hold ill-formed bytes and single surrogates, and it may be nested to any depth.
-/

namespace EntityGate.Json

/-- Decoded characters, with an absent one for each ill-formed sequence of bytes. -/
abbrev Decoded := List (Option Char)

namespace Decoded

/-- What follows the white space. -/
def skipSpaces (chars : Decoded) : Decoded := chars.dropWhile fun char => char.any isSpace

/-- What stands between two places of which the second is further on, if it is well-formed. -/
def upTo? (chars rest : Decoded) : Option (List Char) :=
  (chars.take (chars.length - rest.length)).mapM id

/-- What follows a text, of which the opening quote was read. -/
def skipString : Decoded → Option Decoded
  | [] => none
  | some '"' :: rest => some rest
  | some '\\' :: some 'u' :: some a :: some b :: some c :: some d :: rest =>
    if [a, b, c, d].all fun char => (hexValue? char).isSome then skipString rest else none
  | some '\\' :: some letter :: rest =>
    if (simpleEscape? letter).isSome then skipString rest else none
  | some char :: rest => if char = '\\' ∨ char.toNat < 32 then none else skipString rest
  | none :: rest => skipString rest

/-- What follows one digit or more. -/
def skipDigits (chars : Decoded) : Option Decoded :=
  let rest := chars.dropWhile fun char => char.any Char.isDigit
  if rest.length < chars.length then some rest else none

/-- What follows the whole part of a number, which has no leading zero. -/
def skipWhole : Decoded → Option Decoded
  | some '0' :: rest => if (rest.head?.join.any Char.isDigit) then none else some rest
  | chars => skipDigits chars

/-- What follows a fraction, if there is one. -/
def skipFraction : Decoded → Option Decoded
  | some '.' :: digits => skipDigits digits
  | chars => some chars

/-- What follows an exponent, if there is one. -/
def skipExponent : Decoded → Option Decoded
  | some mark :: rest =>
    if mark = 'e' ∨ mark = 'E' then
      match rest with
      | some '+' :: digits | some '-' :: digits => skipDigits digits
      | digits => skipDigits digits
    else some (some mark :: rest)
  | chars => some chars

/-- What follows a number. -/
def skipNumber (chars : Decoded) : Option Decoded := do
  let unsigned := match chars with
    | some '-' :: rest => rest
    | _ => chars
  let afterWhole ← skipWhole unsigned
  let afterFraction ← skipFraction afterWhole
  skipExponent afterFraction

mutual

/-- What follows the value at the start of the text. -/
def skipValue : Nat → Decoded → Option Decoded
  | 0, _ => none
  | fuel + 1, chars =>
    match skipSpaces chars with
    | some 'n' :: some 'u' :: some 'l' :: some 'l' :: rest => some rest
    | some 't' :: some 'r' :: some 'u' :: some 'e' :: rest => some rest
    | some 'f' :: some 'a' :: some 'l' :: some 's' :: some 'e' :: rest => some rest
    | some '"' :: rest => skipString rest
    | some '[' :: rest =>
      match skipSpaces rest with
      | some ']' :: after => some after
      | items => skipItems fuel items
    | some '{' :: rest =>
      match skipSpaces rest with
      | some '}' :: after => some after
      | fields => skipFields fuel fields
    | other => skipNumber other

/-- What follows the items of an array from one item on. -/
def skipItems : Nat → Decoded → Option Decoded
  | 0, _ => none
  | fuel + 1, chars => do
    let rest ← skipValue fuel chars
    match skipSpaces rest with
    | some ',' :: after => skipItems fuel after
    | some ']' :: after => some after
    | _ => none

/-- What follows the fields of an object from one field on. -/
def skipFields : Nat → Decoded → Option Decoded
  | 0, _ => none
  | fuel + 1, chars =>
    match skipSpaces chars with
    | some '"' :: quoted => do
      let afterKey ← skipString quoted
      match skipSpaces afterKey with
      | some ':' :: valueText =>
        let rest ← skipValue fuel valueText
        match skipSpaces rest with
        | some ',' :: after => skipFields fuel after
        | some '}' :: after => some after
        | _ => none
      | _ => none
    | _ => none

end

/-- The key that stands between two places, the closing quote included. -/
def key? (quoted afterKey : Decoded) : Option String := do
  let chars ← upTo? quoted afterKey
  let (key, _) ← readString (chars.length + 1) [] chars
  some key

/-- The value of a field that stands between two places. -/
def fieldValue? (valueText rest : Decoded) : Option Json := do
  let chars ← upTo? valueText rest
  let (value, _) ← readValue (2 * chars.length + 2) (maxNesting - 1) chars
  some value

/-- The known fields of an object from one field on, and what follows the object. -/
def knownFields (names : List String) :
    Nat → JsonFields → Decoded → Option (JsonFields × Decoded)
  | 0, _, _ => none
  | fuel + 1, collected, chars =>
    match skipSpaces chars with
    | some '"' :: quoted => do
      let afterKey ← skipString quoted
      let key ← key? quoted afterKey
      match skipSpaces afterKey with
      | some ':' :: valueText =>
        let rest ← skipValue fuel valueText
        let fields ←
          if names.contains key then
            (fieldValue? valueText rest).map fun value => (key, value) :: collected
          else some collected
        match skipSpaces rest with
        | some ',' :: after => knownFields names fuel fields after
        | some '}' :: after => some (fields.reverse, after)
        | _ => none
      | _ => none
    | _ => none

/-- The object that the whole text writes, with the fields of the given names. -/
def knownObject? (names : List String) (chars : Decoded) : Option Json := do
  match skipSpaces chars with
  | some '{' :: fields =>
    let (known, rest) ← knownFields names (2 * chars.length + 2) [] fields
    if (skipSpaces rest).isEmpty then some (.object known) else none
  | _ => none

end Decoded

/-- The record of the given fields that bytes write: a value with all its fields, else an object
whose other fields are skipped. -/
def readRecord? (names : List String) (bytes : List UInt8) : Option Json :=
  ((Text.decodeUtf8? bytes).bind fun chars => readWritten? (String.ofList chars)) <|>
    Decoded.knownObject? names (Text.decodeSteps bytes.length bytes)

end EntityGate.Json
