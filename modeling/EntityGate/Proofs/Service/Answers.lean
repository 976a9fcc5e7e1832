import EntityGate.Proofs.Service.Routes
import EntityGate.Proofs.Session.Effects
import EntityGate.Service.Basic

/-!
# What a service does for an operation

On the route of an operation a service runs the guards of the gate and then what the operation is
for: its listing, that very action or its changelog. Read `answer_target` for the routes and
`respond_on_route` for the messages that come in on them.
-/

namespace EntityGate

open Document

theorem HttpMethod.token_injective : Function.Injective HttpMethod.token := by
  intro method other h
  cases method <;> cases other <;> first | rfl | exact absurd h (by decide)

namespace GateVersion

variable [Libraries] {version : GateVersion} {action : Action}

/-- Runs an action that is at hand. -/
def runAction (gate : GateVersion) (validate : InputValidator) (policy : Policy)
    (groups : Option CacheGroups) (action : Action) (identifier : Option String)
    (request : Request) : Effect ActionOutcome := do
  let entity ← gate.resolveEntity action identifier request
  let payload ← Session.ofExcept (action.acceptedPayload validate request.payload)
  if !action.permits policy request entity then throw (.reported Action.refusal)
  let result ← gate.handle action identifier request entity payload
  if action.kind.isMutation then gate.flushListings groups
  return ⟨result, action.statusOf result⟩

/-- The action of a name is the one that runs. -/
theorem execute_of_action (validate : InputValidator) (policy : Policy)
    (groups : Option CacheGroups) (identifier : Option String) (request : Request)
    (h : version.action? action.name = some action) :
    version.execute validate policy groups action.name identifier request =
      version.runAction validate policy groups action identifier request := by
  unfold execute runAction
  rw [h]

omit [Libraries] in
theorem Apart.action_of_name (h : version.Apart) (haction : action ∈ version.actions) :
    version.action? action.name = some action :=
  (find_name_eq_some_iff h.names).mpr ⟨haction, rfl⟩

end GateVersion

/-- The identifier that an action is given where it stands. -/
def Document.ActionPlace.identifier (id : String) : ActionPlace → Option String
  | .collection | .named false => none
  | .member | .named true => some id

namespace Service

variable [Libraries] {service : Service} {page : GatePage} {id : String} {request : Request}

/-- The reply with the changelog of a gate. -/
def changelogReply (gate : Gate) : Reply :=
  .json 200 (.object [
    ("data", gate.changelogJson),
    ("meta", .object [
      ("entity", .string gate.entity),
      ("default_version", Json.ofString? gate.defaultVersion)])])

/-- What a service does for an operation: after the guards, the listing, that very action or the
changelog. -/
def serve (service : Service) (page : GatePage) (id : String)
    (readRequest : Except RequestError Request) : Target → Effect Reply
  | .listing => do
    let request ← Session.ofExcept readRequest
    Session.ofExcept (service.guards.run request page.version.middleware)
    let listing ← page.version.cachedList service.validate service.groups
      service.settings.paginationDefaults request
    return .json 200 listing
  | .run action => do
    let request ← Session.ofExcept readRequest
    Session.ofExcept (service.guards.run request page.version.middleware)
    let outcome ← page.version.runAction service.validate service.policy (some service.groups)
      action ((placeOf action).identifier id) request
    return outcome.reply
  | .changelog => return changelogReply page.gate

omit [Libraries] in
/-- Of the actions of some kinds, the only one with the method of a request answers it. -/
theorem action_by_method {version : GateVersion} {kinds : List ActionKind} {action : Action}
    (haction : action ∈ version.actions) (hkind : action.kind ∈ kinds)
    (hmethod : request.method = action.method.token)
    (hunique : ∀ other ∈ version.actions, other.kind ∈ kinds →
      other.method = action.method → other = action) :
    actionByMethod version kinds request = .ok action := by
  unfold actionByMethod
  split
  · next found hfound =>
    have htest := List.find?_some hfound
    rw [Bool.and_eq_true, List.contains_iff_mem, beq_iff_eq, hmethod] at htest
    rw [hunique found (List.mem_of_find?_eq_some hfound) htest.1
      (HttpMethod.token_injective htest.2)]
  · next hnone =>
    refine absurd (List.find?_eq_none.mp hnone action haction) (not_not.mpr ?_)
    rw [Bool.and_eq_true, List.contains_iff_mem, beq_iff_eq]
    exact ⟨hkind, hmethod.symm⟩

/-- The names of a page lead to its gate, and requests that ask for no version get its version. -/
structure Holds (service : Service) (page : GatePage) : Prop where
  gate : service.gates.get? page.names.slug = some page.gate
  version : page.gate.version none = .ok page.version
  apart : page.version.Apart

namespace Holds

omit [Libraries] in
theorem open_gate (h : service.Holds page) (hrequest : request.version = none) :
    Session.ofExcept (service.openGate page.names.slug request) = (do
      Session.ofExcept (service.guards.run request page.version.middleware)
      return page.version) := by
  have hopen : service.openGate page.names.slug request =
      (service.guards.run request page.version.middleware >>= fun _ => .ok page.version) := by
    unfold openGate gateOf
    rw [h.gate, hrequest]
    show (page.gate.version none >>= _) = _
    rw [h.version]
    rfl
  rw [hopen]
  cases service.guards.run request page.version.middleware with
  | ok value => rfl
  | error error => rfl

theorem list_eq (h : service.Holds page) (hrequest : request.version = none) :
    service.list page.names.slug request = service.serve page id (.ok request) .listing := by
  unfold list serve
  rw [h.open_gate hrequest]
  simp only [bind_assoc, pure_bind]
  rfl

theorem changelog_eq (h : service.Holds page) (readRequest : Except RequestError Request) :
    Session.ofExcept (service.changelog page.names.slug) =
      service.serve page id readRequest .changelog := by
  unfold changelog gateOf
  rw [h.gate]
  rfl

/-- What runs for an action, whichever way it was picked. -/
theorem execute_eq (h : service.Holds page) {action : Action}
    (haction : action ∈ page.version.actions) (identifier : Option String) :
    service.execute page.version action.name identifier request = (do
      let outcome ← page.version.runAction service.validate service.policy (some service.groups)
        action identifier request
      return outcome.reply) := by
  unfold execute
  rw [GateVersion.execute_of_action _ _ _ _ _ (h.apart.action_of_name haction)]

/-- What a service does with the action that is picked from the version of a page, and runs under
its name. -/
theorem run_picked_eq (h : service.Holds page) (hrequest : request.version = none)
    (pick : GateVersion → Except RequestError Action) (nameOf : Action → String) {action : Action}
    (haction : action ∈ page.version.actions) (hpick : pick page.version = .ok action)
    (hname : nameOf action = action.name) {identifier : Option String}
    (hidentifier : identifier = (placeOf action).identifier id) :
    (do
      let version ← Session.ofExcept (service.openGate page.names.slug request)
      let picked ← Session.ofExcept (pick version)
      service.execute version (nameOf picked) identifier request) =
      service.serve page id (.ok request) (.run action) := by
  unfold serve
  rw [h.open_gate hrequest]
  simp only [bind_assoc, pure_bind]
  rw [hpick, hidentifier]
  show (Session.ofExcept (service.guards.run request page.version.middleware) >>= fun _ =>
    service.execute page.version (nameOf action) _ request) = _
  rw [hname, h.execute_eq haction]
  rfl

theorem run_by_method_eq (h : service.Holds page) (hrequest : request.version = none)
    {kinds : List ActionKind} {action : Action} (haction : action ∈ page.version.actions)
    (hpick : actionByMethod page.version kinds request = .ok action)
    {identifier : Option String} (hidentifier : identifier = (placeOf action).identifier id) :
    service.runByMethod page.names.slug kinds identifier request =
      service.serve page id (.ok request) (.run action) :=
  h.run_picked_eq hrequest (fun version => actionByMethod version kinds request) Action.name
    haction hpick rfl hidentifier

theorem run_by_name_eq (h : service.Holds page) (hrequest : request.version = none)
    {action : Action} (haction : action ∈ page.version.actions)
    (hmethod : request.method = action.method.token) {identifier : Option String}
    (hidentifier : identifier = (placeOf action).identifier id) :
    service.runByName page.names.slug action.name identifier request =
      service.serve page id (.ok request) (.run action) := by
  have hpick : actionByName page.version action.name request = .ok action := by
    unfold actionByName
    rw [h.apart.action_of_name haction]
    exact if_pos (beq_iff_eq.mpr hmethod.symm)
  exact h.run_picked_eq hrequest (fun version => actionByName version action.name request)
    (fun _ => action.name) haction hpick rfl hidentifier

/-- On the route of an action, a request that was read runs that action. -/
theorem answer_action (h : service.Holds page) {action : Action}
    (haction : action ∈ page.version.actions) (hversion : request.version = none)
    (hmethod : request.method = action.method.token) :
    service.answer ((placeOf action).route page.names.slug action.name id) (.ok request) =
      service.serve page id (.ok request) (.run action) := by
  have hidentifier {place : ActionPlace} (hplace : placeOf action = place) :
      place.identifier id = (placeOf action).identifier id := by
    rw [hplace]
  cases hplace : placeOf action with
  | collection =>
      -- The listing answers GET here, so an action on the collection has another method.
      obtain ⟨hkind, hget⟩ := place_collection hplace
      have hnot : ¬ request.method = "GET" := fun heq =>
        hget (HttpMethod.token_injective (hmethod.symm.trans heq))
      have hpick : actionByMethod page.version [.create] request = .ok action := by
        refine action_by_method haction (by simp [hkind]) hmethod fun other hother hcreate _ => ?_
        have hcreate' := List.mem_singleton.mp hcreate
        exact h.apart.eq_of_kind hother haction (hcreate'.trans hkind.symm) (by simp [hcreate'])
      show (if request.method = "GET" then _ else
        service.runByMethod page.names.slug [.create] none request) = _
      rw [if_neg hnot]
      exact h.run_by_method_eq hversion haction hpick (hidentifier hplace)
  | member =>
      -- Updates and deletions share the path; the method tells which one is asked for.
      have hkind := place_member hplace
      have hpick : actionByMethod page.version [.update, .delete] request = .ok action := by
        refine action_by_method haction (by simpa using hkind) hmethod
          fun other hother hchange hsame => ?_
        exact h.apart.eq_of_method hother haction (by simpa using hchange) hkind hsame
      exact h.run_by_method_eq hversion haction hpick (hidentifier hplace)
  | named takesId =>
      cases takesId with
      | false => exact h.run_by_name_eq hversion haction hmethod (hidentifier hplace)
      | true => exact h.run_by_name_eq hversion haction hmethod (hidentifier hplace)

/-- On the route of an operation, a service does what the operation is for. -/
theorem answer_target (h : service.Holds page) {target : Target} (htarget : target ∈ page.targets)
    {readRequest : Except RequestError Request}
    (hread : ∀ request, readRequest = .ok request →
      request.version = none ∧ request.method = target.method.token) :
    service.answer (target.route page.names.slug id) readRequest =
      service.serve page id readRequest target := by
  cases target with
  | changelog => exact h.changelog_eq readRequest
  | listing =>
      cases readRequest with
      | error error => rfl
      | ok request =>
          obtain ⟨hversion, hmethod⟩ := hread request rfl
          have hget : request.method = "GET" := hmethod
          show (if request.method = "GET" then service.list page.names.slug request else _) = _
          rw [if_pos hget, h.list_eq hversion]
  | run action =>
      show service.answer ((placeOf action).route page.names.slug action.name id) readRequest = _
      cases readRequest with
      | error error => rcases placeOf action with _ | _ | (_ | _) <;> rfl
      | ok request =>
          obtain ⟨hversion, hmethod⟩ := hread request rfl
          exact h.answer_action (GatePage.mem_actions_of_target htarget) hversion hmethod

end Holds

/-- A message on a route that is there for its method gets the answer of the route. -/
theorem respond_on_route {route : Route String} {message : Message}
    (hpath : Route.ofPath? service.settings.routeBase message.path = some route.written)
    (hdecode : route.written.decode = .ok route) (hcommon : route.written.isCommon = false)
    (hmethod : route.written.isReadOnly = true → message.method = "GET")
    (hlength : message.announcesTooMuch service.settings.bodyLimit = false) :
    service.respond message =
      replyOf (service.answer route (message.request service.settings.bodyLimit)) := by
  have haccepts : accepts route.written message.method = true := by
    unfold accepts
    cases hread : route.written.isReadOnly with
    | false => rfl
    | true => simp [hmethod hread]
  have hhead : ¬ (route.written.isReadOnly && message.method == "HEAD") = true := by
    cases hread : route.written.isReadOnly with
    | false => simp
    | true => simp [hmethod hread]
  unfold respond respondAt respondOn
  rw [hpath]
  dsimp only
  rw [hcommon, hlength, haccepts, hdecode]
  simp only [hhead, Bool.not_false, Bool.and_false, Bool.false_eq_true, if_false, if_true,
    bind_pure]

end Service

end EntityGate
