import EntityGate.Data.Record
import EntityGate.Json.Reader
import EntityGate.Yaml.Scalar

/-!
# Nodes of written configurations

A written configuration is a tree. Scalars of JSON have a type of their own. A plain scalar of
YAML is a text where a text is asked for, and what the core schema makes of it elsewhere; an empty
one also stands for an empty list or record.
-/

namespace EntityGate

/-- A node of a written configuration. Repeated keys of a record are kept apart. -/
inductive Node where
  | null
  | bool (value : Bool)
  | number (value : JsonNumber)
  | text (value : String)
  | plain (value : String)
  | list (items : List Node)
  | record (fields : List (String × Node))
  deriving Repr, Inhabited

namespace Node

/-! ## Nodes and JSON -/

mutual

/-- The node of a JSON value. -/
def ofJson : Json → Node
  | .null => .null
  | .bool value => .bool value
  | .number value => .number value
  | .string value => .text value
  | .array items => .list (ofJsonItems items)
  | .object fields => .record (ofJsonFields fields)

/-- The nodes of items. -/
def ofJsonItems : List Json → List Node
  | [] => []
  | item :: items => ofJson item :: ofJsonItems items

/-- The nodes of fields. -/
def ofJsonFields : List (String × Json) → List (String × Node)
  | [] => []
  | (key, value) :: fields => (key, ofJson value) :: ofJsonFields fields

end

mutual

/-- The JSON value of a node, with each key once in every object. -/
def toJson : Node → Json
  | .null => .null
  | .bool value => .bool value
  | .number value => .number value
  | .text value => .string value
  | .plain scalar => Yaml.toJson scalar
  | .list items => .array (toJsonItems items)
  | .record fields => .object (JsonFields.ofList (toJsonFields fields))

/-- The JSON values of items. -/
def toJsonItems : List Node → List Json
  | [] => []
  | item :: items => toJson item :: toJsonItems items

/-- The JSON values of fields. -/
def toJsonFields : List (String × Node) → List (String × Json)
  | [] => []
  | (key, value) :: fields => (key, toJson value) :: toJsonFields fields

end

/-! ## What is asked for -/

/-- The text of a node. -/
def text? : Node → Option String
  | .text value | .plain value => some value
  | _ => none

/-- The truth value of a node. -/
def truth? : Node → Option Bool
  | .bool value => some value
  | .plain scalar => Yaml.truth? scalar
  | _ => none

/-- The natural number of a node, below a bound. -/
def naturalBelow? (bound : Nat) (node : Node) : Option Nat :=
  let found : Option Nat := match node with
    | .number value => value.toUnsigned?
    | .plain scalar => Yaml.natural? scalar
    | _ => none
  found.filter (· < bound)

/-- The natural number of 64 bits of a node. -/
def natural64? (node : Node) : Option Nat := naturalBelow? (2 ^ 64) node

/-- Whether the node stands for null. -/
def isNull : Node → Bool
  | .null => true
  | .plain scalar => Yaml.isNull scalar
  | _ => false

/-- The items of a list. -/
def items? : Node → Option (List Node)
  | .list items => some items
  | .plain "" => some []
  | _ => none

/-- The fields of a record. -/
def fields? : Node → Option (List (String × Node))
  | .record fields => some fields
  | .plain "" => some []
  | _ => none

/-- The parts of a record with the given field names, written by name or in order. -/
def parts? (names : List String) : Node → Option (List (Option Node))
  | .list items => Record.ofItems? names items
  | node => node.fields?.bind (Record.ofFields? names)

variable {α : Type}

/-- What a node writes, null standing for nothing. -/
def optional? (read : Node → Option α) (node : Node) : Option (Option α) :=
  if node.isNull then some none else (read node).map some

/-- The list that a node writes. -/
def listOf? (read : Node → Option α) (node : Node) : Option (List α) :=
  node.items?.bind fun items => items.mapM read

/-- The entries that a record writes. -/
def entriesOf? (read : Node → Option α) (node : Node) : Option (List (String × α)) :=
  node.fields?.bind fun fields => fields.mapM fun field =>
    (read field.2).map fun value => (field.1, value)

/-- What a part writes, which has to be there. -/
def required? (read : Node → Option α) (part : Option Node) : Option α := part.bind read

/-- What a part writes, or the default when it is not there. -/
def orDefault? (default : α) (read : Node → Option α) : Option Node → Option α
  | none => some default
  | some node => read node

/-- What a part writes, where null and absence stand for nothing. -/
def orNone? (read : Node → Option α) : Option Node → Option (Option α) :=
  orDefault? none (optional? read)

end Node

end EntityGate
