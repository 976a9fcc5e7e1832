import EntityGate.Json.Printer
import EntityGate.Text.Uuid
import EntityGate.Validation.ValueKind

/-!
# Values bound to a statement

What travels beside the text of a statement. Each value has a type of the database and a binary
form; null is a text without bytes.
-/

namespace EntityGate.Sql

/-- A value bound to a placeholder. -/
inductive BoundValue where
  | null
  | bool (value : Bool)
  | integer (value : Int)
  | double (value : Binary64)
  | text (value : String)
  | uuid (value : Uuid)
  | json (value : Json)
  deriving Repr, Inhabited

namespace BoundValue

/-- The bound form of a JSON value: a text that writes an identifier is one, and a number beyond
the signed integers of 64 bits is a double. -/
def ofJson : Json → BoundValue
  | .null => .null
  | .bool value => .bool value
  | .number value =>
    match value.toSigned? with
    | some signed => .integer signed
    | none => .double value.toDouble
  | .string written =>
    match Uuid.parse? written with
    | some identifier => .uuid identifier
    | none => .text written
  | .array items => .json (.array items)
  | .object fields => .json (.object fields)

/-- The bound form of a value of the given kind; values of kind `json` travel as they are. -/
def ofKind (kind : ValueKind) (value : Json) : BoundValue :=
  match kind with
  | .json => .json value
  | _ => ofJson (kind.coerce value)

/-- The name of the value's type in the database. -/
def typeName : BoundValue → String
  | .null | .text _ => "TEXT"
  | .bool _ => "BOOL"
  | .integer _ => "INT8"
  | .double _ => "FLOAT8"
  | .uuid _ => "UUID"
  | .json _ => "JSONB"

/-- The eight bytes of an integer in two's complement, most significant first. -/
def integerBytes (value : Int) : List UInt8 :=
  let word : Nat := (value % 2 ^ 64).toNat
  (List.range 8).map fun position => UInt8.ofNat (word / Nat.pow 2 (8 * (7 - position)))

/-- The binary form; absent for null. -/
def wireBytes : BoundValue → Option (List UInt8)
  | .null => none
  | .bool value => some [if value then 1 else 0]
  | .integer value => some (integerBytes value)
  | .double value => some value.bytes
  | .text value => some (Text.encodeUtf8 value.toList)
  | .uuid value => some value.bytes
  | .json value => some (1 :: Text.encodeUtf8 value.compactChars)

end BoundValue

end EntityGate.Sql
