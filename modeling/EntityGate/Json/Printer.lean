import EntityGate.Json.Basic
import EntityGate.Number.Shortest

/-!
# Writing JSON

The compact form has no blanks. The pretty form indents by two blanks and writes empty containers
without a line break. Both escape only the quote, the backslash and the control characters below
the blank.
-/

namespace EntityGate

/-- JSON writes a double positionally from 1e-5 up to, not including, 1e16, and gives a positive
exponent its sign. -/
def jsonDoubleFormat : DoubleFormat :=
  { lowestPositional := -5, highestPositional := 15, signedExponent := true }

/-- The text of a number. -/
def JsonNumber.chars : JsonNumber → List Char
  | .int value =>
    if value < 0 then '-' :: DoubleFormat.digits value.natAbs else DoubleFormat.digits value.natAbs
  | .double value => jsonDoubleFormat.write value

namespace Json

/-- A digit of the hexadecimal notation in lower case. -/
def hexDigit (value : Nat) : Char :=
  if value < 10 then Char.ofNat (48 + value) else Char.ofNat (87 + value)

/-- The written form of one character inside a string. -/
def escapeChar (char : Char) : List Char :=
  if char = '"' then ['\\', '"']
  else if char = '\\' then ['\\', '\\']
  else if char = '\n' then ['\\', 'n']
  else if char = '\r' then ['\\', 'r']
  else if char = '\t' then ['\\', 't']
  else if char = '\x08' then ['\\', 'b']
  else if char = '\x0c' then ['\\', 'f']
  else if char.toNat < 32 then
    ['\\', 'u', '0', '0', hexDigit (char.toNat / 16), hexDigit (char.toNat % 16)]
  else [char]

/-- A string between quotes. -/
def quoteChars (chars : List Char) : List Char :=
  '"' :: (chars.flatMap escapeChar ++ ['"'])

mutual

/-- The compact text of a value. -/
def compactChars : Json → List Char
  | .null => ['n', 'u', 'l', 'l']
  | .bool true => ['t', 'r', 'u', 'e']
  | .bool false => ['f', 'a', 'l', 's', 'e']
  | .number value => value.chars
  | .string value => quoteChars value.toList
  | .array [] => ['[', ']']
  | .array (item :: items) => '[' :: (compactChars item ++ compactItems items)
  | .object [] => ['{', '}']
  | .object ((key, value) :: fields) =>
    '{' :: (quoteChars key.toList ++ ':' :: (compactChars value ++ compactFields fields))

/-- The rest of an array after an item. -/
def compactItems : List Json → List Char
  | [] => [']']
  | item :: items => ',' :: (compactChars item ++ compactItems items)

/-- The rest of an object after a field. -/
def compactFields : List (String × Json) → List Char
  | [] => ['}']
  | (key, value) :: fields =>
    ',' :: (quoteChars key.toList ++ ':' :: (compactChars value ++ compactFields fields))

end

/-- The compact text of a value. -/
def compact (json : Json) : String := String.ofList (compactChars json)

/-- A line break and the indentation of the given depth. -/
def lineBreak (depth : Nat) : List Char := '\n' :: List.replicate (2 * depth) ' '

mutual

/-- The pretty text of a value that stands at the given depth. -/
def prettyChars (depth : Nat) : Json → List Char
  | .array [] => ['[', ']']
  | .array (item :: items) =>
    '[' :: (lineBreak (depth + 1) ++ prettyChars (depth + 1) item ++ prettyItems depth items)
  | .object [] => ['{', '}']
  | .object ((key, value) :: fields) =>
    '{' :: (lineBreak (depth + 1) ++ quoteChars key.toList ++ ':' :: ' ' ::
      (prettyChars (depth + 1) value ++ prettyFields depth fields))
  | scalar => compactChars scalar

/-- The rest of a pretty array after an item. -/
def prettyItems (depth : Nat) : List Json → List Char
  | [] => lineBreak depth ++ [']']
  | item :: items =>
    ',' :: (lineBreak (depth + 1) ++ prettyChars (depth + 1) item ++ prettyItems depth items)

/-- The rest of a pretty object after a field. -/
def prettyFields (depth : Nat) : List (String × Json) → List Char
  | [] => lineBreak depth ++ ['}']
  | (key, value) :: fields =>
    ',' :: (lineBreak (depth + 1) ++ quoteChars key.toList ++ ':' :: ' ' ::
      (prettyChars (depth + 1) value ++ prettyFields depth fields))

end

/-- The pretty text of a value. -/
def pretty (json : Json) : String := String.ofList (prettyChars 0 json)

end Json

end EntityGate
