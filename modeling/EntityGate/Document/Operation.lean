import EntityGate.Document.Schema
import EntityGate.Http.Method

/-!
# Operations

What the document says about one method on one path.
-/

namespace EntityGate.Document

/-- Where a parameter stands. -/
inductive ParameterPlace where
  | query
  | path
  deriving DecidableEq, Repr, Inhabited

/-- A parameter of an operation; one of the path is required. -/
structure Parameter where
  name : String
  place : ParameterPlace
  description : Option String
  type : SchemaType
  deriving DecidableEq, Repr, Inhabited

/-- A response of an operation: what it means and the schema of its body, if it has one. -/
structure Response where
  description : String
  body : Option Schema := none
  deriving Repr, Inhabited

/-- An operation. The body of the request is a reference to a component, and the responses are
sorted by status. -/
structure Operation where
  tag : String
  operationId : String
  summary : String
  parameters : List Parameter := []
  requestBody : Option String := none
  responses : TextMap Response := .empty
  security : Option String := none
  metadata : Json := .null
  deriving Repr, Inhabited

/-- A path, a method and what the document says about them. -/
structure Endpoint where
  path : String
  method : HttpMethod
  operation : Operation
  deriving Repr, Inhabited

/-- A field that is there only if it has a value. -/
def fieldOf? (name : String) (value : Option Json) : JsonFields :=
  match value with
  | some json => [(name, json)]
  | none => []

/-- The content of a body in JSON. -/
def jsonContent (schema : Schema) : Json :=
  .object [("application/json", .object [("schema", schema.toJson)])]

namespace Parameter

/-- A parameter of the query string. -/
def ofQuery (name description : String) (type : SchemaType) : Parameter :=
  ⟨name, .query, some description, type⟩

/-- The identifier in the path. -/
def id : Parameter := ⟨"id", .path, none, .string⟩

/-- The JSON form of a parameter. -/
def toJson (parameter : Parameter) : Json :=
  let place := match parameter.place with
    | .query => "query"
    | .path => "path"
  .object (
    [("name", .string parameter.name), ("in", .string place)] ++
    fieldOf? "description" (parameter.description.map .string) ++
    [("required", .bool (parameter.place == .path)),
      ("schema", (Schema.ofType parameter.type).toJson)])

end Parameter

namespace Response

/-- The JSON form of a response. -/
def toJson (response : Response) : Json :=
  .object ([("description", .string response.description)] ++
    fieldOf? "content" (response.body.map jsonContent))

end Response

namespace Operation

/-- The operation with a response for a status, over any earlier one. -/
def respond (operation : Operation) (status : String) (response : Response) : Operation :=
  { operation with responses := operation.responses.insert status response }

/-- The operation with a response for a status under a condition. -/
def respondIf (operation : Operation) (condition : Bool) (status description : String) :
    Operation :=
  if condition then operation.respond status { description := description } else operation

/-- The JSON form of a request body. -/
def requestBodyJson (component : String) : Json :=
  .object [("content", jsonContent (.reference component)), ("required", .bool true)]

/-- The JSON form of the parameters; without any the field is left out. -/
def parametersJson? (parameters : List Parameter) : Option Json :=
  if parameters.isEmpty then none else some (.array (parameters.map Parameter.toJson))

/-- The JSON form of an operation. -/
def toJson (operation : Operation) : Json :=
  .object (
    [("tags", Json.ofStrings [operation.tag]),
      ("summary", .string operation.summary),
      ("operationId", .string operation.operationId)] ++
    fieldOf? "parameters" (parametersJson? operation.parameters) ++
    fieldOf? "requestBody" (operation.requestBody.map requestBodyJson) ++
    [("responses", .object (operation.responses.entries.map fun entry =>
      (entry.1, entry.2.toJson)))] ++
    fieldOf? "security" (operation.security.map fun name =>
      .array [.object [(name, .array [])]]) ++
    [("x-query-gate", operation.metadata)])

end Operation

/-- The operations by path and method; a later operation takes the place of an earlier one. -/
abbrev PathTable := TextMap (TextMap Operation)

namespace PathTable

/-- The table with one operation more. -/
def add (table : PathTable) (endpoint : Endpoint) : PathTable :=
  let methods := (table.find? endpoint.path).getD .empty
  table.insert endpoint.path
    (methods.insert (Text.lowerAscii endpoint.method.token) endpoint.operation)

/-- The table of operations given one after the other. -/
def ofList (endpoints : List Endpoint) : PathTable := endpoints.foldl add .empty

/-- The JSON form of a table. -/
def toJson (table : PathTable) : Json :=
  .object (table.entries.map fun path =>
    (path.1, .object (path.2.entries.map fun method => (method.1, method.2.toJson))))

end PathTable

end EntityGate.Document
