import EntityGate.Http.Method
import EntityGate.Http.Reply
import EntityGate.Request.Basic
import EntityGate.Session.Basic

/-!
# Actions

A named action on an entity: the method that it answers, the rules of its payload, the abilities
that it asks for and what it does. The three default actions go by their names; every other name
is a custom action. What is declared is checked when the gate is built.
-/

namespace EntityGate

/-- What an action does by default. -/
inductive ActionKind where
  | create
  | update
  | delete
  | custom
  deriving DecidableEq, Repr, Inhabited

namespace ActionKind

/-- The kind that goes by a name. -/
def ofName : String → ActionKind
  | "create" => .create
  | "update" => .update
  | "delete" => .delete
  | _ => .custom

/-- The method without a declared one. -/
def defaultMethod : ActionKind → HttpMethod
  | .create | .custom => .post
  | .update => .patch
  | .delete => .delete

/-- Whether actions of the kind change listings of their entity. -/
def isMutation : ActionKind → Bool
  | .create | .update | .delete => true
  | .custom => false

end ActionKind

/-- What the handling of an action produced. -/
inductive ActionResult where
  | entity (value : Json)
  | json (value : Json)
  | noContent
  | raw (reply : Reply)
  deriving Repr, Inhabited

/-- What a handler is given: the resolved entity, the accepted payload and the source. -/
structure Invocation where
  action : String
  request : Request
  entity : Option Json
  payload : JsonFields
  source : EntitySource
  deriving Repr, Inhabited

/-- The handling of an action. -/
abbrev ActionHandler := Invocation → Effect ActionResult

/-- An authorisation that may allow, forbid or leave the matter to the abilities. -/
abbrev AuthorizeHook := Request → Option Json → Option Bool

/-- The declaration of an action; what is not set follows from the name. -/
structure ActionDraft where
  name : String
  method : Option String := none
  rules : Option RuleMap := none
  abilities : List String := []
  authorize : Option AuthorizeHook := none
  handler : Option ActionHandler := none
  requiresIdentifier : Option Bool := none
  status : Option Nat := none

/-- An action that is ready to run. -/
structure Action where
  name : String
  kind : ActionKind
  method : HttpMethod
  rules : RuleMap
  abilities : List String
  authorize : Option AuthorizeHook
  handler : Option ActionHandler
  requiresIdentifier : Bool
  status : Option Nat

/-- One thing that may be declared about an action. -/
inductive ActionStep where
  | method (token : String)
  | rule (field : String) (rules : Rules)
  | rules (entries : List (String × Rules))
  | ability (name : String)
  | authorize (hook : AuthorizeHook)
  | handler (handler : ActionHandler)
  | requiresIdentifier (required : Bool)
  | status (code : Nat)

namespace ActionDraft

/-- The declaration of an action by its name, trimmed. -/
def make (name : String) : ActionDraft := { name := Text.trim name }

/-- The declaration after one more thing is declared. An ability counts once. -/
def step (draft : ActionDraft) : ActionStep → ActionDraft
  | .method token => { draft with method := some token }
  | .rule field rules =>
    { draft with
      rules := some ((draft.rules.getD RuleMap.empty).insert field rules.tokens) }
  | .rules entries => { draft with rules := some (RuleMap.ofRules entries) }
  | .ability name =>
    if draft.abilities.contains name then draft
    else { draft with abilities := draft.abilities ++ [name] }
  | .authorize hook => { draft with authorize := some hook }
  | .handler handler => { draft with handler := some handler }
  | .requiresIdentifier required => { draft with requiresIdentifier := some required }
  | .status code => { draft with status := some code }

/-- The declaration after several steps. -/
def steps (draft : ActionDraft) (list : List ActionStep) : ActionDraft := list.foldl step draft

/-- The method that was declared, or that of the kind. -/
def resolveMethod (draft : ActionDraft) : Except ConfigError HttpMethod :=
  match draft.method with
  | none => .ok (ActionKind.ofName draft.name).defaultMethod
  | some token =>
    match HttpMethod.ofToken? token with
    | some method => .ok method
    | none => .error (.invalidMethod draft.name token)

/-- The status that was declared, if it is one. -/
def resolveStatus (draft : ActionDraft) : Except ConfigError (Option Nat) :=
  match draft.status with
  | none => .ok none
  | some code =>
    if 100 ≤ code ∧ code ≤ 599 then .ok (some code) else .error (.invalidStatus draft.name code)

/-- The action of a declaration. -/
def compile (draft : ActionDraft) : Except ConfigError Action := do
  if draft.name.isEmpty then throw .emptyActionName
  let method ← draft.resolveMethod
  let status ← draft.resolveStatus
  let kind := ActionKind.ofName draft.name
  return {
    name := draft.name
    kind := kind
    method := method
    rules := draft.rules.getD RuleMap.empty
    abilities := draft.abilities
    authorize := draft.authorize
    handler := draft.handler
    requiresIdentifier := draft.requiresIdentifier.getD (kind != .create)
    status := status }

end ActionDraft

end EntityGate
