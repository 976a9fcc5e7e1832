import EntityGate.Json.Basic
import EntityGate.Number.Numeral
import EntityGate.Text.Blank

/-!
# Kinds of values

The kind of a field decides how the text of a query string becomes a typed value before it is
compared or bound. It follows from the first rule of the field that names a type.
-/

namespace EntityGate

/-- How a value is typed. -/
inductive ValueKind where
  | text
  | integer
  | number
  | boolean
  | date
  | dateTime
  | json
  deriving DecidableEq, Repr, Inhabited

namespace ValueKind

/-- The name of the kind. -/
def name : ValueKind → String
  | .text => "text"
  | .integer => "integer"
  | .number => "number"
  | .boolean => "boolean"
  | .date => "date"
  | .dateTime => "datetime"
  | .json => "json"

/-- The kind of a name. -/
def ofName? (name : String) : Option ValueKind :=
  [ValueKind.text, .integer, .number, .boolean, .date, .dateTime, .json].find? fun kind =>
    kind.name == name

/-- The kind that a rule token names: its part before the first colon, trimmed, decides. -/
def ofToken? (token : String) : Option ValueKind :=
  match Text.trimChars (token.toList.takeWhile (· != ':')) |> String.ofList with
  | "integer" | "int" => some .integer
  | "numeric" | "decimal" => some .number
  | "boolean" | "bool" => some .boolean
  | "date" => some .date
  | "datetime" | "date_format" => some .dateTime
  | _ => none

/-- The kind of the first token that names one; text when none does. -/
def ofRules (rules : List String) : ValueKind := (rules.findSome? ofToken?).getD .text

/-- The type that an expression on a JSON path is cast to, where the column type is unknown. -/
def cast? : ValueKind → Option String
  | .integer => some "bigint"
  | .number => some "numeric"
  | .boolean => some "boolean"
  | .date => some "date"
  | .dateTime => some "timestamptz"
  | .text | .json => none

/-- The integer that a text writes. -/
def integerOf? (chars : List Char) : Option Json := (Numeral.signed64? chars).map .ofInt

/-- The number that a text writes: an integer if it is one, else a finite double. -/
def numberOf? (chars : List Char) : Option Json :=
  match integerOf? chars with
  | some value => some value
  | none =>
    match Numeral.double? chars with
    | some value => if value.isFinite then some (.number (.double value)) else none
    | none => none

/-- The truth value that a text writes. -/
def booleanOf? (chars : List Char) : Option Json :=
  match String.ofList (chars.map Char.toLower) with
  | "true" | "1" | "yes" | "on" => some (.bool true)
  | "false" | "0" | "no" | "off" => some (.bool false)
  | _ => none

/-- The typed value of a text; a text that does not write one stays, and so does any value that
is no text. -/
def coerce (kind : ValueKind) (value : Json) : Json :=
  match value with
  | .string written =>
    let chars := Text.trimChars written.toList
    match kind with
    | .integer => (integerOf? chars).getD value
    | .number => (numberOf? chars).getD value
    | .boolean => (booleanOf? chars).getD value
    | .text | .date | .dateTime | .json => value
  | _ => value

end ValueKind

end EntityGate
