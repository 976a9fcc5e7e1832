import EntityGate.Data.TextMap
import EntityGate.Json.Basic
import EntityGate.Validation.RuleMap

/-!
# Schemas

The schema of a field follows from its rules: a type, a format, the permitted values and whether
null is one of them. The schema of a rule map is an object with a property for each field.
-/

namespace EntityGate.Document

/-- The type of a value in a schema. -/
inductive SchemaType where
  | object
  | string
  | integer
  | number
  | boolean
  deriving DecidableEq, Repr, Inhabited

/-- The name of a type. -/
def SchemaType.name : SchemaType → String
  | .object => "object"
  | .string => "string"
  | .integer => "integer"
  | .number => "number"
  | .boolean => "boolean"

/-- A schema of the kinds that the document needs. -/
inductive Schema where
  | reference (component : String)
  | list (items : Schema)
  | scalar (type : SchemaType) (nullable : Bool) (format : Option String)
      (choices : Option (List String))
  | record (required : List String) (properties : List (String × Schema))
  deriving Repr, Inhabited

namespace Schema

/-- A value of a type without further restrictions. -/
def ofType (type : SchemaType) : Schema := .scalar type false none none

mutual

/-- The schema as JSON. -/
def toJson : Schema → Json
  | .reference component => .object [("$ref", .string ("#/components/schemas/" ++ component))]
  | .list items => .object [("type", .string "array"), ("items", toJson items)]
  | .scalar type nullable format choices =>
    .object (
      [("type", if nullable then Json.ofStrings [type.name, "null"] else .string type.name)] ++
      (match format with
        | some name => [("format", .string name)]
        | none => []) ++
      (match choices with
        | some values => [("enum", Json.ofStrings values)]
        | none => []))
  | .record required properties =>
    .object (
      [("type", .string "object")] ++
      (if required.isEmpty then [] else [("required", Json.ofStrings required)]) ++
      (match properties with
        | [] => []
        | first :: rest => [("properties", .object (propertiesJson (first :: rest)))]))

/-- The properties as fields of a JSON object. -/
def propertiesJson : List (String × Schema) → List (String × Json)
  | [] => []
  | (name, schema) :: rest => (name, toJson schema) :: propertiesJson rest

end

/-- The names of the tokens: what stands before the first colon. -/
def tokenNames (tokens : List String) : List String :=
  tokens.map fun token => String.ofList (token.toList.takeWhile (· != ':'))

/-- The format that the tokens name. -/
def formatOf (names : List String) : Option String :=
  let has (name : String) : Bool := names.contains name
  if has "date" then some "date"
  else if has "datetime" || has "date_format" then some "date-time"
  else if has "email" then some "email"
  else if has "uuid" then some "uuid"
  else if has "url" then some "uri"
  else none

/-- The type that the tokens name. -/
def typeOf (names : List String) : SchemaType :=
  let has (name : String) : Bool := names.contains name
  if has "boolean" || has "bool" then .boolean
  else if has "integer" || has "int" then .integer
  else if has "numeric" || has "decimal" then .number
  else .string

/-- The permitted values of the first token that lists some. -/
def choicesOf (tokens : List String) : Option (List String) :=
  tokens.findSome? fun token =>
    (Text.afterStart? ['i', 'n', ':'] token.toList).map fun choices =>
      (Text.splitChars (· == ',') choices).map fun choice => String.ofList (Text.trimChars choice)

/-- The schema of a field with the given rules. -/
def ofRules (tokens : List String) : Schema :=
  let names := tokenNames tokens
  if names.contains "array" then .list (.ofType .string)
  else .scalar (typeOf names) (names.contains "nullable") (formatOf names) (choicesOf tokens)

/-- An object with the given properties, sorted by name, a later one over an earlier one. -/
def recordOf (required : List String) (properties : List (String × Schema)) : Schema :=
  .record required (TextMap.ofList properties).entries

/-- The schema of a rule map: a property for each field, required where a token says so. -/
def ofRuleMap (rules : RuleMap) : Schema :=
  recordOf ((rules.entries.filter fun entry => entry.2.contains "required").map Prod.fst)
    (rules.entries.map fun entry => (entry.1, ofRules entry.2))

end Schema

end EntityGate.Document
