import EntityGate.Listing.Query
import EntityGate.Session.Basic

/-!
# Running actions

An action runs in a fixed order: it is looked up, its entity is resolved within the scope of the
gate, its payload is checked against its rules, it is authorised, and only then is it handled. A
successful change of the entity removes the listings that the gate keeps.
-/

namespace EntityGate

/-- What an action produced and the status it is sent with. -/
structure ActionOutcome where
  result : ActionResult
  status : Nat
  deriving Repr, Inhabited

namespace ActionOutcome

/-- The reply of an outcome. -/
def reply (outcome : ActionOutcome) : Reply :=
  match outcome.result with
  | .entity value => .data outcome.status value
  | .json value => .json outcome.status value
  | .noContent => .bare outcome.status
  | .raw reply => reply

end ActionOutcome

namespace Action

/-- The payload that an action accepts: the fields with rules, once they pass them; everything
when the action has no rules. -/
def acceptedPayload (action : Action) (validate : InputValidator) (payload : JsonFields) :
    Except RequestError JsonFields :=
  if action.rules.isEmpty then .ok payload
  else
    match validate payload action.rules with
    | .ok accepted => .ok accepted
    | .error errors => .error (.invalid errors)

/-- Whether the actor may run the action on the entity: the hook of the action decides if it
answers, else every ability has to be granted. -/
def permits (action : Action) (policy : Policy) (request : Request) (entity : Option Json) : Bool :=
  match action.authorize.bind fun hook => hook request entity with
  | some answer => answer
  | none => action.abilities.all fun ability => policy.grants ability request.actor entity

/-- The refusal of an action. -/
def refusal : RequestError := .forbidden "This action is unauthorized."

/-- The status of a result. -/
def statusOf (action : Action) (result : ActionResult) : Nat :=
  match result, action.status with
  | .raw _, _ => 200
  | _, some status => status
  | .noContent, none => 204
  | _, none => if action.kind = .create then 201 else 200

end Action

namespace GateVersion

/-- The row that an identifier names within the scope of the gate. -/
def resolveRow [Libraries] (gate : GateVersion) (action : Action) (identifier : Option String)
    (request : Request) : Effect Json :=
  match identifier.bind Text.nonBlank? with
  | none => throw (.reported
    (.badRequest ("the " ++ action.name ++ " action requires an identifier")))
  | some id => do
    match ← Session.find gate.source (gate.scopedFrom request {}) (.string id) with
    | some row => return .object row
    | none => throw (.reported (.notFound (gate.entity ++ " " ++ id)))

/-- The entity that an action works on; there is none for a creation and for actions that need no
identifier. -/
def resolveEntity [Libraries] (gate : GateVersion) (action : Action) (identifier : Option String)
    (request : Request) : Effect (Option Json) :=
  if action.kind = .create ∨ action.requiresIdentifier = false then return none
  else return some (← gate.resolveRow action identifier request)

/-- The key of the row to change: that of the resolved entity, else the identifier. -/
def changedKey (gate : GateVersion) (entity : Option Json) (identifier : Option String) :
    Option Json :=
  (entity.bind fun row => row.get? gate.source.primaryKey) <|> identifier.map .string

/-- What an action does that has no handler. -/
def defaultHandling (gate : GateVersion) (kind : ActionKind) (entity : Option Json)
    (key : Option Json) (payload : JsonFields) (expectsJson : Bool) : Effect ActionResult := do
  match kind, key with
  | .create, _ => return .entity (.object (← Session.insert gate.source payload))
  | .update, some key =>
    match ← Session.update gate.source key payload with
    | some row => return .entity (.object row)
    | none => throw (.reported (.notFound gate.entity))
  | .delete, some key =>
    let deleted ← Session.delete gate.source key
    return if expectsJson then .json (.object [("deleted", .bool deleted)]) else .noContent
  | .update, none | .delete, none => throw (.reported (.notFound gate.entity))
  | .custom, _ => return .entity (entity.getD .null)

/-- Handles an action that passed all checks. -/
def handle (gate : GateVersion) (action : Action) (identifier : Option String) (request : Request)
    (entity : Option Json) (payload : JsonFields) : Effect ActionResult :=
  match action.handler with
  | some handler => handler {
      action := action.name
      request := request
      entity := entity
      payload := payload
      source := gate.source }
  | none =>
    gate.defaultHandling action.kind entity (gate.changedKey entity identifier) payload
      request.expectsJson

/-- Removes the listings that the gate keeps, where listings are kept at all. -/
def flushListings (gate : GateVersion) (groups : Option CacheGroups) : Effect Unit :=
  match groups, gate.cacheGroup with
  | some groups, some group => do
    let _ ← Session.onCache (groups.flush group)
  | _, _ => return ()

/-- Runs the action of a name. -/
def execute [Libraries] (gate : GateVersion) (validate : InputValidator) (policy : Policy)
    (groups : Option CacheGroups) (name : String) (identifier : Option String)
    (request : Request) : Effect ActionOutcome :=
  match gate.action? name with
  | none =>
    throw (.reported (.methodNotAllowed
      ("action '" ++ name ++ "' is not available on " ++ gate.entity)))
  | some action => do
    let entity ← gate.resolveEntity action identifier request
    let payload ← Session.ofExcept (action.acceptedPayload validate request.payload)
    if !action.permits policy request entity then throw (.reported Action.refusal)
    let result ← gate.handle action identifier request entity payload
    if action.kind.isMutation then gate.flushListings groups
    return ⟨result, action.statusOf result⟩

end GateVersion

end EntityGate
