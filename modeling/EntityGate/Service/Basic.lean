import EntityGate.Document.Generation
import EntityGate.Gate.Execution
import EntityGate.Http.Message
import EntityGate.Listing.Cached
import EntityGate.Request.Guard
import EntityGate.Service.Route

/-!
# Services

A service answers messages from the gates of a registry: listings, actions, changelogs, the
document and a few facts about itself. Whatever error is reported on the way becomes the reply, and
what happened to the store and the cache before it stays. A message whose work is aborted gets no
reply.
-/

namespace EntityGate

/-- A service: its gates, its settings, what checks input, and what its gates may refer to. -/
structure Service where
  gates : GateRegistry
  settings : GateSettings := {}
  validate : InputValidator
  policy : Policy := .allowAll
  guards : GuardRegistry := .builtIn
  modifiers : Document.Modifiers := []
  now : Int := 0

namespace Service

/-- Refuses gates that name a guard which is not registered. -/
def checkGuards (guards : GuardRegistry) : List Gate → Except ConfigError Unit
  | [] => .ok ()
  | gate :: rest =>
    match gate.draft.middleware.find? fun name => !guards.contains name with
    | some name => .error (.unknownMiddleware name)
    | none => checkGuards guards rest

/-- The service, if its gates name registered guards only. -/
def check (service : Service) : Except ConfigError Service := do
  checkGuards service.guards service.gates.gates
  return service

/-- The groups of cached listings. -/
def groups (service : Service) : CacheGroups := ⟨service.settings.cachePrefix, service.now⟩

/-! ## Gates -/

/-- The gate of a name. -/
def gateOf (service : Service) (name : String) : Except RequestError Gate :=
  match service.gates.get? name with
  | some gate => .ok gate
  | none => .error (.notFound ("no query gate for '" ++ name ++ "'"))

/-- The version of a gate that a request asks for, once the guards let the request pass. -/
def openGate (service : Service) (name : String) (request : Request) :
    Except RequestError GateVersion := do
  let gate ← service.gateOf name
  let version ← gate.version request.version
  service.guards.run request version.middleware
  return version

/-- The listing of a gate. -/
def list [Libraries] (service : Service) (name : String) (request : Request) : Effect Reply := do
  let version ← Session.ofExcept (service.openGate name request)
  let listing ← version.cachedList service.validate service.groups
    service.settings.paginationDefaults request
  return .json 200 listing

/-- The first action of some kinds that answers the method of a request. -/
def actionByMethod (version : GateVersion) (kinds : List ActionKind) (request : Request) :
    Except RequestError Action :=
  match version.actions.find? fun action =>
    kinds.contains action.kind && action.method.token == request.method with
  | some action => .ok action
  | none =>
    .error (.methodNotAllowed (request.method ++ " is not supported on " ++ version.entity))

/-- Runs the action of a name. -/
def execute [Libraries] (service : Service) (version : GateVersion) (name : String)
    (identifier : Option String) (request : Request) : Effect Reply := do
  let outcome ← version.execute service.validate service.policy (some service.groups) name
    identifier request
  return outcome.reply

/-- Runs the action that the method of a request picks. -/
def runByMethod [Libraries] (service : Service) (gate : String) (kinds : List ActionKind)
    (identifier : Option String) (request : Request) : Effect Reply := do
  let version ← Session.ofExcept (service.openGate gate request)
  let action ← Session.ofExcept (actionByMethod version kinds request)
  service.execute version action.name identifier request

/-- The action of a name, which has to answer the method of the request. -/
def actionByName (version : GateVersion) (name : String) (request : Request) :
    Except RequestError Action :=
  match version.action? name with
  | none => .error
    (.methodNotAllowed ("action '" ++ name ++ "' is not available on " ++ version.entity))
  | some action =>
    if action.method.token == request.method then .ok action
    else .error
      (.methodNotAllowed ("action '" ++ name ++ "' expects " ++ action.method.token))

/-- Runs the action of a name, if it answers the method of the request. -/
def runByName [Libraries] (service : Service) (gate name : String) (identifier : Option String)
    (request : Request) : Effect Reply := do
  let version ← Session.ofExcept (service.openGate gate request)
  let _ ← Session.ofExcept (actionByName version name request)
  service.execute version name identifier request

/-- The changelog of a gate. -/
def changelog (service : Service) (name : String) : Except RequestError Reply := do
  let gate ← service.gateOf name
  return .json 200 (.object [
    ("data", gate.changelogJson),
    ("meta", .object [
      ("entity", .string gate.entity),
      ("default_version", Json.ofString? gate.defaultVersion)])])

/-! ## The service itself -/

/-- Whether the service is ready, as JSON. -/
def readyJson (service : Service) (cacheWorks : Bool) : Json :=
  .object [
    ("status", .string (if cacheWorks then "ok" else "degraded")),
    ("gates", Json.ofNat service.gates.gates.length),
    ("cache", .string (if cacheWorks then "ok" else "unavailable"))]

/-- Tries the cache and says whether the service is ready. -/
def ready (service : Service) : Effect Reply :=
  tryCatch (do
    Session.onCache (Cache.put (service.settings.cachePrefix ++ ":ready-probe") (.bool true) 5)
    return .json 200 (service.readyJson true))
    fun
      | .reported _ => return .json 503 (service.readyJson false)
      | .aborted => throw .aborted

/-- The name and the version of the program. -/
def programJson : Json :=
  .object [("name", .string "query-gate"), ("version", .string "0.1.0")]

/-! ## Messages -/

/-- What a route answers to a request. -/
def answer [Libraries] (service : Service) (route : Route String)
    (readRequest : Except RequestError Request) : Effect Reply :=
  match route with
  | .listing => do
    let request ← Session.ofExcept readRequest
    match request.model with
    | some name => service.list name request
    | none => throw (.reported (.badRequest "the model parameter is required"))
  | .document => do
    return .json 200 (← Session.ofExcept
      (Document.build service.modifiers service.gates service.settings))
  | .collection gate => do
    let request ← Session.ofExcept readRequest
    if request.method = "GET" then service.list gate request
    else service.runByMethod gate [.create] none request
  | .changelog gate => Session.ofExcept (service.changelog gate)
  | .member gate id => do
    let request ← Session.ofExcept readRequest
    service.runByMethod gate [.update, .delete] (some id) request
  | .action gate name => do
    let request ← Session.ofExcept readRequest
    service.runByName gate name none request
  | .memberAction gate name id => do
    let request ← Session.ofExcept readRequest
    service.runByName gate name (some id) request
  | .health => return .json 200 (.object [("status", .string "ok")])
  | .ready => service.ready
  | .version => return .json 200 programJson

/-- The reply of an effect: that of the error, if one is reported, and none if it was aborted. -/
def replyOf (effect : Effect Reply) : StateM Session (Option Reply) := do
  match ← effect.run with
  | .ok reply => return some reply
  | .error (.reported error) => return some (.json error.status error.body)
  | .error .aborted => return none

/-- The reply to a message on a route that is there for its method. -/
def respondOn [Libraries] (service : Service) (route : Route Route.Written) (message : Message) :
    StateM Session (Option Reply) :=
  match route.decode with
  | .error name =>
    return some (.text 400 ("Invalid URL: Invalid UTF-8 in \x60" ++ name ++ "\x60"))
  | .ok decoded =>
    replyOf (service.answer decoded (message.request service.settings.bodyLimit))

/-- Whether a route is there for a method: one that is only read answers two methods. -/
def accepts (route : Route Route.Written) (method : String) : Bool :=
  !route.isReadOnly || method == "GET" || method == "HEAD"

/-- The reply to a message on a route. A body that is announced to be over the limit is refused
before anything else. -/
def respondAt [Libraries] (service : Service) (route : Route Route.Written) (message : Message) :
    StateM Session (Option Reply) :=
  if !route.isCommon && message.announcesTooMuch service.settings.bodyLimit then
    return some (.text 413 "length limit exceeded")
  else if accepts route message.method then service.respondOn route message
  else return some (.bare 405)

/-- The reply to a message, absent where answering it was aborted. A route that is only read sends
no body where only the head was asked for. -/
def respond [Libraries] (service : Service) (message : Message) : StateM Session (Option Reply) :=
  match Route.ofPath? service.settings.routeBase message.path with
  | none => return some (.bare 404)
  | some route => do
    let reply ← service.respondAt route message
    return if route.isReadOnly && message.method == "HEAD" then
      reply.map fun sent => { sent with body := "" }
    else reply

end Service

end EntityGate
