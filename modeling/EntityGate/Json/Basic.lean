import EntityGate.Number.Binary64

/-!
# JSON values

A JSON value whose objects keep their fields in the order of insertion. Integers and doubles are
different values even where they are numerically equal; the numeric reading of both is a double.
Inserting under a present key replaces the value in place. Removing a key moves the last field
into the hole.
-/

namespace EntityGate

/-- A JSON number: an integer of 64 bits, signed or unsigned, or a finite double. -/
inductive JsonNumber where
  | int (value : Int)
  | double (value : Binary64)
  deriving DecidableEq, Repr, Inhabited

/-- A JSON value. -/
inductive Json where
  | null
  | bool (value : Bool)
  | number (value : JsonNumber)
  | string (value : String)
  | array (items : List Json)
  | object (fields : List (String × Json))
  deriving Repr, Inhabited

/-- The fields of an object in their order. -/
abbrev JsonFields := List (String × Json)

namespace JsonNumber

/-- The double nearest to the number. -/
def toDouble : JsonNumber → Binary64
  | .int value => Binary64.ofInt value
  | .double value => value

/-- The number as a signed integer of 64 bits, when it is written as one. -/
def toSigned? : JsonNumber → Option Int
  | .int value => if value < 2 ^ 63 then some value else none
  | .double _ => none

/-- The number as an unsigned integer of 64 bits, when it is written as one. -/
def toUnsigned? : JsonNumber → Option Nat
  | .int value => if 0 ≤ value then some value.toNat else none
  | .double _ => none

/-- Equality of numbers as values: integers with integers, doubles numerically with doubles. -/
def sameValue : JsonNumber → JsonNumber → Bool
  | .int left, .int right => left == right
  | .double left, .double right => left.numEq right
  | _, _ => false

end JsonNumber

namespace JsonFields

/-- The value under a key. -/
def get? (fields : JsonFields) (key : String) : Option Json :=
  fields.lookup key

/-- Whether the key is present. -/
def has (fields : JsonFields) (key : String) : Bool :=
  fields.any fun field => field.1 == key

/-- Replaces the value under a key in place, or adds the field at the end. -/
def insert : JsonFields → String → Json → JsonFields
  | [], key, value => [(key, value)]
  | (name, old) :: rest, key, value =>
    if name == key then (name, value) :: rest else (name, old) :: insert rest key value

/-- The fields inserted one after the other into the empty object. -/
def ofList (fields : List (String × Json)) : JsonFields :=
  fields.foldl (fun object field => insert object field.1 field.2) []

/-- Puts a field in the place of the first field with the given key. -/
def replaceField : JsonFields → String → String × Json → JsonFields
  | [], _, _ => []
  | field :: rest, key, moved =>
    if field.1 == key then moved :: rest else field :: replaceField rest key moved

/-- Removes a key; the last field takes its place. -/
def swapRemove (fields : JsonFields) (key : String) : JsonFields :=
  match fields.getLast? with
  | none => []
  | some last =>
    if last.1 == key then fields.dropLast
    else if has fields key then replaceField fields.dropLast key last
    else fields

end JsonFields

namespace Json

/-- An integer as a JSON value. -/
def ofInt (value : Int) : Json := .number (.int value)

/-- A natural number as a JSON value. -/
def ofNat (value : Nat) : Json := .number (.int value)

/-- An optional string, absence written as null. -/
def ofString? : Option String → Json
  | some text => .string text
  | none => .null

/-- An optional natural number, absence written as null. -/
def ofNat? : Option Nat → Json
  | some value => ofNat value
  | none => .null

/-- A list of strings as a JSON value. -/
def ofStrings (texts : List String) : Json := .array (texts.map .string)

/-- The text of a string value. -/
def text? : Json → Option String
  | .string value => some value
  | _ => none

/-- The fields of an object value. -/
def fields? : Json → Option JsonFields
  | .object fields => some fields
  | _ => none

/-- The items of an array value. -/
def items? : Json → Option (List Json)
  | .array items => some items
  | _ => none

/-- The truth value of a boolean value. -/
def truth? : Json → Option Bool
  | .bool value => some value
  | _ => none

/-- Whether the value is null. -/
def isNull : Json → Bool
  | .null => true
  | _ => false

/-- The value under a key of an object; absent for other values. -/
def get? (json : Json) (key : String) : Option Json :=
  match json with
  | .object fields => JsonFields.get? fields key
  | _ => none

mutual

/-- Equality of values: numbers by kind and value, arrays item by item, objects as maps whatever
the order of their fields. -/
def sameValue : Json → Json → Bool
  | .null, .null => true
  | .bool left, .bool right => left == right
  | .number left, .number right => left.sameValue right
  | .string left, .string right => left == right
  | .array left, .array right => sameItems left right
  | .object left, .object right => left.length == right.length && sameFields left right
  | _, _ => false

/-- Equality of lists of values, item by item. -/
def sameItems : List Json → List Json → Bool
  | [], [] => true
  | left :: lefts, right :: rights => sameValue left right && sameItems lefts rights
  | _, _ => false

/-- Whether every field on the left has an equal value under the same key on the right. -/
def sameFields : List (String × Json) → List (String × Json) → Bool
  | [], _ => true
  | (key, value) :: rest, right =>
    (match right.lookup key with
      | some other => sameValue value other
      | none => false) && sameFields rest right

end

end Json

end EntityGate
