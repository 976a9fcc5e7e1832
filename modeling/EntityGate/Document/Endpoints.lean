import EntityGate.Document.Names
import EntityGate.Document.Operation

/-!
# Endpoints of gates

The operations that the document lists for a gate: its listing, its actions and, where there are
versions, its changelog. Every operation carries what the gate lets a caller discover.
-/

namespace EntityGate.Document

/-- What the operations of a gate are made from. -/
structure GatePage where
  gate : Gate
  version : GateVersion
  names : Names
  base : String
  security : Option String

/-- The tokens of the operators that may be used on a filter. -/
def operatorTokens (version : GateVersion) (field : String) : List String :=
  ((version.operators.find? field).getD FilterOperator.catalog).map FilterOperator.token

/-- What a caller may discover about a filter. -/
def filterMetadata (version : GateVersion) (field : String) : Json :=
  .object [
    ("rules", Json.ofStrings ((version.filters.get? field).getD [])),
    ("operators", Json.ofStrings (operatorTokens version field)),
    ("raw", .bool (version.customFilters.contains field))]

/-- What a caller may discover about a gate. -/
def gateMetadata (gate : Gate) (version : GateVersion) : Json :=
  .object [
    ("entity", .string version.entity),
    ("filters", .object (version.filterFields.map fun field =>
      (field, filterMetadata version field))),
    ("sorts", Json.ofStrings version.sorts),
    ("select", Json.ofStrings version.select),
    ("pagination", .string version.pagination.name),
    ("versions", Json.ofStrings gate.versionNames),
    ("default_version", Json.ofString? gate.defaultVersion)]

/-- The schema of an entity: its key, its columns and its filters. -/
def entitySchema (version : GateVersion) : Schema :=
  Schema.recordOf [] (
    (version.source.primaryKey :: version.select).map (fun column =>
      (column, Schema.ofType .object)) ++
    version.filters.entries.map fun entry => (entry.1, Schema.ofRules entry.2))

namespace GatePage

/-- The path of the listing. -/
def listPath (page : GatePage) : String := page.base ++ "/" ++ page.names.slug

/-- An operation without anything special. -/
def operation (page : GatePage) (summary idEnd : String) : Operation :=
  { tag := page.names.tag
    operationId := page.names.component ++ idEnd
    summary := summary
    security := page.security
    metadata := gateMetadata page.gate page.version }

/-- The parameter of a filter. -/
def filterParameter (page : GatePage) (field : String) : Parameter :=
  .ofQuery ("filter[" ++ field ++ "]")
    ("Filter " ++ field ++ " with operators: " ++
      Text.join ", " (operatorTokens page.version field)) .object

/-- What the document says about sort expressions. -/
def sortDescription (page : GatePage) : String :=
  if page.version.sorts.isEmpty then "Comma separated field:direction pairs"
  else "Comma separated field:direction pairs over: " ++ Text.join ", " page.version.sorts

/-- The parameters of the listing. -/
def listParameters (page : GatePage) : List Parameter :=
  page.version.filterFields.map page.filterParameter ++
  [.ofQuery "sort" page.sortDescription .string,
    .ofQuery "per_page" "Page size" .integer,
    .ofQuery "page" "Page number for classic pagination" .integer,
    .ofQuery "cursor" "Opaque cursor for cursor pagination" .string,
    .ofQuery "pagination" "classic, cursor or none" .string] ++
  (if page.gate.versionNames.isEmpty then []
    else [.ofQuery "version" "Gate version" .string])

/-- The operation of the listing. -/
def listOperation (page : GatePage) : Operation :=
  let rows : Schema := .record [] [("data", .list (.reference page.names.component))]
  { page.operation ("List " ++ page.names.tag) "List" with
    parameters := page.listParameters
    responses := .ofList [
      ("200", { description := "Paginated result", body := some rows }),
      ("422", { description := "Invalid filter" })] }

/-- Whether an action works on the entity of an identifier. -/
def needsEntity (action : Action) : Bool := action.requiresIdentifier && action.kind != .create

/-- The status of success that the document gives for an action. -/
def successStatus (action : Action) : String :=
  match action.status, action.kind with
  | some status, _ => toString status
  | none, .create => "201"
  | none, _ => "200"

/-- The operation of an action with its responses of success. -/
def withSuccess (page : GatePage) (action : Action) (operation : Operation) : Operation :=
  if action.kind = .delete ∧ action.handler.isNone then
    (operation.respond (successStatus action)
      { description := "Deletion result"
        body := some (.record [] [("deleted", .ofType .boolean)]) }).respond "204"
      { description := "Deleted" }
  else
    operation.respond (successStatus action)
      { description := "Action result"
        body := some (.record [] [("data", .reference page.names.component)]) }

/-- The operation of an action. -/
def actionOperation (page : GatePage) (action : Action) : Operation :=
  let ruled := !action.rules.isEmpty
  let plain := page.operation (Naming.titleCase action.name ++ " " ++ page.names.component)
    (pascalCase action.name)
  let called := { plain with
    parameters := if needsEntity action then [Parameter.id] else []
    requestBody := if ruled then some (payloadComponent page.names action) else none }
  (((page.withSuccess action called).respondIf ruled "422" "Validation failed").respondIf
    (action.authorize.isSome || !action.abilities.isEmpty) "403" "Forbidden").respondIf
    (needsEntity action) "404" "Not found"

/-- The path of an action. -/
def actionPath (page : GatePage) (action : Action) : String :=
  let named := page.listPath ++ "/actions/" ++ action.name
  match action.kind with
  | .create => if action.method = .get then named ++ idSegment action else page.listPath
  | .update | .delete => page.listPath ++ "/\x7bid\x7d"
  | .custom => named ++ idSegment action
where
  /-- The segment of the identifier, where there is one. -/
  idSegment (action : Action) : String := if action.requiresIdentifier then "/\x7bid\x7d" else ""

/-- The operation of the changelog. -/
def changelogOperation (page : GatePage) : Operation :=
  let entry : Schema := .record []
    [("changes", .list (.ofType .string)), ("version", .ofType .string)]
  (page.operation (page.names.tag ++ " changelog") "Changelog").respond "200"
    { description := "Version changelog", body := some (.list entry) }

/-- All operations of a gate. -/
def endpoints (page : GatePage) : List Endpoint :=
  [⟨page.listPath, .get, page.listOperation⟩] ++
  page.version.actions.map (fun action =>
    ⟨page.actionPath action, action.method, page.actionOperation action⟩) ++
  (if page.gate.versionNames.isEmpty then []
    else [⟨page.listPath ++ "/changelog", .get, page.changelogOperation⟩])

/-- The components of a gate: its entity and the payloads of its actions. -/
def schemas (page : GatePage) : List (String × Schema) :=
  (page.names.component, entitySchema page.version) ::
  (page.version.actions.filter fun action => !action.rules.isEmpty).map fun action =>
    (payloadComponent page.names action, Schema.ofRuleMap action.rules)

end GatePage

end EntityGate.Document
