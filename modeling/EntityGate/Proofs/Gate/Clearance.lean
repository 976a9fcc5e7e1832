import EntityGate.Library.Bundled
import EntityGate.Gate.Execution
import EntityGate.Proofs.Cache.Effects
import EntityGate.Proofs.Data.Results
import EntityGate.Proofs.Store.Tables

/-!
# What an action has to pass before it runs

`execute_eq` splits the run of an action into its checks and what follows them. The checks only
read, so nothing is written before they pass. Read `execute_guarded` for the result: a handler runs
exactly when the action is cleared, the store and the cache change only then, and a failure of an
action without a handler of its own leaves both as they were.
-/

namespace EntityGate

open Session (perform)

/-- The hook of the action allows it, or there is no answer from a hook and every ability is
granted to the actor of the request on the entity. -/
def Action.Authorizes (action : Action) (policy : Policy) (request : Request)
    (entity : Option Json) : Prop :=
  (∃ hook, action.authorize = some hook ∧ hook request entity = some true) ∨
    ((∀ hook, action.authorize = some hook → hook request entity = none) ∧
      ∀ ability ∈ action.abilities, policy.grants ability request.actor entity = true)

theorem Action.permits_iff {action : Action} {policy : Policy} {request : Request}
    {entity : Option Json} :
    action.permits policy request entity = true ↔ action.Authorizes policy request entity := by
  unfold Action.permits Action.Authorizes
  cases hhook : action.authorize with
  | none => simp
  | some hook =>
      cases hanswer : hook request entity with
      | none => simp [hanswer]
      | some answer => simp [hanswer]

/-- What the checks of an action let through: the action, the entity it is about and the payload
that it accepts. -/
structure Clearance where
  action : Action
  entity : Option Json
  payload : JsonFields

namespace GateVersion

section Checks

variable [Libraries]

/-- The checks of an action in their order. -/
def checks (gate : GateVersion) (validate : InputValidator) (policy : Policy) (name : String)
    (identifier : Option String) (request : Request) : Effect Clearance :=
  match gate.action? name with
  | none =>
    throw (.reported (.methodNotAllowed
      ("action '" ++ name ++ "' is not available on " ++ gate.entity)))
  | some action => do
    let entity ← gate.resolveEntity action identifier request
    let payload ← Session.ofExcept (action.acceptedPayload validate request.payload)
    if !action.permits policy request entity then throw (.reported Action.refusal)
    return ⟨action, entity, payload⟩

/-- What follows the checks: the handling of the action and, after a change, the removal of the
kept listings. -/
def dispatch (gate : GateVersion) (groups : Option CacheGroups) (identifier : Option String)
    (request : Request) (clearance : Clearance) : Effect ActionOutcome := do
  let result ←
    gate.handle clearance.action identifier request clearance.entity clearance.payload
  if clearance.action.kind.isMutation then gate.flushListings groups
  return ⟨result, clearance.action.statusOf result⟩

/-- The clearance of an action: it exists, its entity was found, its payload passed its rules and
the actor may run it on that same entity. -/
structure Cleared (gate : GateVersion) (validate : InputValidator) (policy : Policy) (name : String)
    (identifier : Option String) (request : Request) (session : Session)
    (clearance : Clearance) : Prop where
  offered : gate.action? name = some clearance.action
  resolved : (perform session (gate.resolveEntity clearance.action identifier request)).1 =
    .ok clearance.entity
  accepted : clearance.action.acceptedPayload validate request.payload = .ok clearance.payload
  authorized : clearance.action.Authorizes policy request clearance.entity

variable {gate : GateVersion} {validate : InputValidator} {policy : Policy}
  {groups : Option CacheGroups} {name : String} {identifier : Option String} {request : Request}
  {session : Session}

theorem execute_eq :
    gate.execute validate policy groups name identifier request =
      gate.checks validate policy name identifier request >>=
        gate.dispatch groups identifier request := by
  unfold execute checks
  cases gate.action? name with
  | none => rfl
  | some action =>
      simp only [bind_assoc]
      refine bind_congr fun entity => bind_congr fun payload => ?_
      split <;> rfl

/-! ## The checks only read -/

theorem resolve_entity_reads (action : Action) :
    Session.ReadsOnly gate.source (gate.resolveEntity action identifier request) := by
  unfold resolveEntity
  split
  · exact .pure _
  · refine .bind ?_ fun _ => .pure _
    unfold resolveRow
    cases identifier.bind Text.nonBlank? with
    | none => exact .throw _
    | some id =>
        refine (Session.ReadsOnly.find _ _).bind fun found => ?_
        cases found with
        | none => exact .throw _
        | some row => exact .pure _

theorem checks_reads :
    Session.ReadsOnly gate.source (gate.checks validate policy name identifier request) := by
  unfold checks
  cases gate.action? name with
  | none => exact .throw _
  | some action =>
      refine (resolve_entity_reads action).bind fun entity => ?_
      refine (Session.ReadsOnly.of_except _).bind fun payload => ?_
      split
      · exact (Session.ReadsOnly.throw _).bind fun _ => .pure _
      · exact .pure _

/-- The checks answer a clearance exactly when the action is cleared. -/
theorem checks_eq_ok_iff {clearance : Clearance} :
    (perform session (gate.checks validate policy name identifier request)).1 = .ok clearance ↔
      gate.Cleared validate policy name identifier request session clearance := by
  obtain ⟨action, entity, payload⟩ := clearance
  constructor
  · intro h
    unfold checks at h
    cases haction : gate.action? name with
    | none => simp [haction] at h
    | some found =>
        simp only [haction] at h
        obtain ⟨resolved, middle, hresolve, h⟩ := Session.perform_bind_eq_ok (Prod.ext h rfl)
        obtain ⟨accepted, after, haccept, h⟩ := Session.perform_bind_eq_ok h
        rw [Session.perform_of_except] at haccept
        split at h
        · simp [Session.perform_bind] at h
        · rename_i hpermits
          simp only [Session.perform_pure, Prod.mk.injEq, Except.ok.injEq,
            Clearance.mk.injEq] at h
          obtain ⟨⟨rfl, rfl, rfl⟩, -⟩ := h
          exact ⟨haction, by rw [hresolve],
            Failure.reporting_eq_ok_iff.mp (Prod.mk.inj haccept).1,
            Action.permits_iff.mp (by simpa using hpermits)⟩
  · rintro ⟨haction, hresolve, haccept, hauthorized⟩
    have hpermits := Action.permits_iff.mpr hauthorized
    simp only at haction hresolve haccept hpermits
    unfold checks
    simp only [haction]
    rw [Session.perform_bind_ok (Prod.ext hresolve rfl), haccept,
      Session.perform_bind_ok (Session.perform_of_except _ _)]
    simp [hpermits]

/-- A cleared action goes on with what the checks leave. -/
theorem perform_execute_of_cleared {clearance : Clearance}
    (h : gate.Cleared validate policy name identifier request session clearance) :
    perform session (gate.execute validate policy groups name identifier request) =
      perform (perform session (gate.checks validate policy name identifier request)).2
        (gate.dispatch groups identifier request clearance) := by
  rw [execute_eq]
  exact Session.perform_bind_ok (Prod.ext (checks_eq_ok_iff.mpr h) rfl) _

/-- An action that is not cleared ends with the failure of its checks. -/
theorem perform_execute_of_not_cleared (groups : Option CacheGroups)
    (h : ¬ ∃ clearance, gate.Cleared validate policy name identifier request session clearance) :
    ∃ error, perform session (gate.checks validate policy name identifier request) =
        (.error error, (perform session (gate.checks validate policy name identifier request)).2) ∧
      perform session (gate.execute validate policy groups name identifier request) =
        (.error error,
          (perform session (gate.checks validate policy name identifier request)).2) := by
  rcases hchecks : perform session (gate.checks validate policy name identifier request) with
    ⟨error | clearance, after⟩
  · exact ⟨error, rfl, by rw [execute_eq, Session.perform_bind_error hchecks]⟩
  · exact False.elim (h ⟨clearance, checks_eq_ok_iff.mp (by rw [hchecks])⟩)

/-! ## Handlers in the place of others -/

/-- The gate with other handlers for its actions. -/
def withHandlers (gate : GateVersion) (handlers : Action → Option ActionHandler) : GateVersion :=
  { gate with actions := gate.actions.map fun action =>
      { action with handler := handlers action } }

/-- The handling of the action takes part in its run: with some other handlers the run would end
in another way. -/
def RunsHandler (gate : GateVersion) (validate : InputValidator) (policy : Policy)
    (groups : Option CacheGroups) (name : String) (identifier : Option String) (request : Request)
    (session : Session) : Prop :=
  ∃ handlers,
    perform session
      ((gate.withHandlers handlers).execute validate policy groups name identifier request) ≠
      perform session (gate.execute validate policy groups name identifier request)

omit [Libraries] in
theorem action_with_handlers (handlers : Action → Option ActionHandler) :
    (gate.withHandlers handlers).action? name =
      (gate.action? name).map fun action => { action with handler := handlers action } := by
  unfold action? withHandlers
  simp only [List.find?_map]
  rfl

/-- The checks look at everything about an action but its handler. -/
theorem checks_with_handlers (handlers : Action → Option ActionHandler) :
    (gate.withHandlers handlers).checks validate policy name identifier request =
      gate.checks validate policy name identifier request >>= fun clearance =>
        pure { clearance with
          action := { clearance.action with handler := handlers clearance.action } } := by
  unfold checks
  rw [action_with_handlers]
  cases gate.action? name with
  | none => rfl
  | some action =>
      simp only [Option.map_some, bind_assoc]
      refine bind_congr fun entity => bind_congr fun payload => ?_
      show (if !action.permits policy request entity then _ else _) = _
      split <;> rfl

/-- With a handler that fails at once, a cleared action fails the way the handler does. -/
theorem perform_execute_failing {clearance : Clearance} (groups : Option CacheGroups)
    (failure : Failure)
    (h : gate.Cleared validate policy name identifier request session clearance) :
    (perform session ((gate.withHandlers fun _ => some fun _ => throw failure).execute validate
      policy groups name identifier request)).1 = .error failure := by
  rw [execute_eq, checks_with_handlers, bind_assoc,
    Session.perform_bind_ok (Prod.ext (checks_eq_ok_iff.mpr h) rfl)]
  rfl

/-- A handler runs exactly when its action is cleared. -/
theorem runs_handler_iff :
    gate.RunsHandler validate policy groups name identifier request session ↔
      ∃ clearance, gate.Cleared validate policy name identifier request session clearance := by
  constructor
  · rintro ⟨handlers, hdiffer⟩
    refine Classical.byContradiction fun hblocked => ?_
    obtain ⟨error, hchecks, hrun⟩ := perform_execute_of_not_cleared groups hblocked
    refine hdiffer ?_
    rw [hrun, execute_eq, checks_with_handlers, bind_assoc, Session.perform_bind_error hchecks]
  · rintro ⟨clearance, hcleared⟩
    -- Two handlers that fail in different ways cannot both end the run as the gate's own does.
    refine Classical.byContradiction fun hsame => ?_
    simp only [RunsHandler, ne_eq, not_exists, Classical.not_not] at hsame
    have hfirst := perform_execute_failing groups .aborted hcleared
    have hsecond := perform_execute_failing groups (.reported (.badRequest "second")) hcleared
    rw [hsame] at hfirst hsecond
    simpa using hfirst.symm.trans hsecond

/-! ## Actions without a handler of their own -/

omit [Libraries] in
theorem flush_listings_ok
    (h : ∀ kept group, groups = some kept → gate.cacheGroup = some group →
      kept.Readable group session.cache) :
    ∃ after, perform session (gate.flushListings groups) = (.ok (), after) := by
  unfold flushListings
  cases groups with
  | none => exact ⟨session, rfl⟩
  | some kept =>
      cases hgroup : gate.cacheGroup with
      | none => exact ⟨session, rfl⟩
      | some group =>
          obtain ⟨count, rest, hflush, -⟩ :=
            CacheGroups.perform_flush (h kept group rfl hgroup)
          have hrun : perform session (Session.onCache (kept.flush group)) =
              (.ok count, { session with cache := session.cache.holding rest }) := by
            rw [Session.perform_on_cache, hflush]
          exact ⟨_, Session.perform_bind_ok hrun _⟩

omit [Libraries] in
/-- The default handling never touches the cache, and when it fails it has not touched the store
either. -/
theorem default_handling_frame (gate : GateVersion) (session : Session) (kind : ActionKind)
    (entity key : Option Json) (payload : JsonFields) (expectsJson : Bool) :
    let outcome :=
      perform session (gate.defaultHandling kind entity key payload expectsJson)
    outcome.2.cache = session.cache ∧
      ∀ error, outcome.1 = .error error → outcome.2.store = session.store := by
  unfold defaultHandling
  split
  · cases hinsert : session.store.insert gate.source payload with
    | ok inserted =>
        rw [Session.perform_bind_ok (Session.perform_insert_ok hinsert)]
        exact ⟨rfl, nofun⟩
    | error failure =>
        rw [Session.perform_bind_error (Session.perform_insert_error hinsert)]
        exact ⟨rfl, fun _ _ => rfl⟩
  · rename_i key
    rw [Session.perform_bind_ok (Session.perform_update _ _ _ _)]
    cases hrow : (session.store.update gate.source key payload).2 with
    | some row => exact ⟨rfl, nofun⟩
    | none => exact ⟨rfl, fun _ _ => Store.update_eq_self hrow⟩
  · exact ⟨rfl, nofun⟩
  · exact ⟨rfl, fun _ _ => rfl⟩
  · exact ⟨rfl, fun _ _ => rfl⟩
  · exact ⟨rfl, nofun⟩

omit [Libraries] in
theorem handle_of_no_handler {action : Action} (h : action.handler = none)
    (entity : Option Json) (payload : JsonFields) :
    gate.handle action identifier request entity payload =
      gate.defaultHandling action.kind entity (gate.changedKey entity identifier) payload
        request.expectsJson := by
  simp only [handle, h]

omit [Libraries] in
/-- What follows the checks of an action without a handler of its own can only fail before it
changes the store: once the default handling answers, the removal of the listings does too. -/
theorem dispatch_error_frame {clearance : Clearance} {failure : Failure}
    (hdefault : clearance.action.handler = none)
    (hreadable : ∀ kept group, groups = some kept → gate.cacheGroup = some group →
      kept.Readable group session.cache)
    (h : (perform session (gate.dispatch groups identifier request clearance)).1 =
      .error failure) :
    let after := (perform session (gate.dispatch groups identifier request clearance)).2
    after.store = session.store ∧ after.cache = session.cache := by
  unfold dispatch at h ⊢
  rw [handle_of_no_handler hdefault] at h ⊢
  obtain ⟨hcache, hstore⟩ := default_handling_frame gate session clearance.action.kind
    clearance.entity (gate.changedKey clearance.entity identifier) clearance.payload
    request.expectsJson
  rcases hrun : perform session (gate.defaultHandling clearance.action.kind clearance.entity
    (gate.changedKey clearance.entity identifier) clearance.payload request.expectsJson) with
    ⟨other | result, after⟩
  · rw [hrun] at hcache hstore
    rw [Session.perform_bind_error hrun]
    exact ⟨hstore other rfl, hcache⟩
  · rw [hrun] at hcache
    have hflush : ∃ final, perform after (gate.flushListings groups) = (.ok (), final) :=
      flush_listings_ok (by simpa only [show after.cache = session.cache from hcache])
    obtain ⟨final, hflush⟩ := hflush
    rw [Session.perform_bind_ok hrun] at h
    split at h
    · rw [Session.perform_bind_ok hflush] at h
      simp at h
    · simp at h

/-- An action without a handler of its own that fails leaves the store and the cache as they were,
as long as the group of the gate can be read. -/
theorem execute_error_frame {failure : Failure}
    (hdefault : ∀ action, gate.action? name = some action → action.handler = none)
    (hreadable : ∀ kept group, groups = some kept → gate.cacheGroup = some group →
      kept.Readable group session.cache)
    (h : (perform session (gate.execute validate policy groups name identifier request)).1 =
      .error failure) :
    let after := (perform session (gate.execute validate policy groups name identifier request)).2
    after.store = session.store ∧ after.cache = session.cache := by
  have hchecks :
      Session.ReadsOnly gate.source (gate.checks validate policy name identifier request) :=
    checks_reads
  have hstore := hchecks.store_eq session
  have hcache := hchecks.cache_eq session
  by_cases hcleared :
      ∃ clearance, gate.Cleared validate policy name identifier request session clearance
  · obtain ⟨clearance, hcleared⟩ := hcleared
    rw [perform_execute_of_cleared hcleared] at h ⊢
    have hframe := dispatch_error_frame (hdefault _ hcleared.offered)
      (by simpa only [hcache] using hreadable) h
    exact ⟨hframe.1.trans hstore, hframe.2.trans hcache⟩
  · obtain ⟨_, -, hrun⟩ := perform_execute_of_not_cleared groups hcleared
    rw [hrun]
    exact ⟨hstore, hcache⟩

/-- Nothing is written without passing every check, and a failure leaves everything as it was. The
handling of an action takes part in its run exactly when the action is cleared; the store or the
cache change only if it is; and when the run of an action without a handler of its own fails, the
store and the cache are what they were, provided that the group of the gate can be read. -/
theorem execute_guarded (gate : GateVersion) (validate : InputValidator) (policy : Policy)
    (groups : Option CacheGroups) (name : String) (identifier : Option String) (request : Request)
    (session : Session) :
    let outcome := perform session (gate.execute validate policy groups name identifier request)
    (gate.RunsHandler validate policy groups name identifier request session ↔
      ∃ clearance, gate.Cleared validate policy name identifier request session clearance) ∧
    (outcome.2.store ≠ session.store ∨ outcome.2.cache ≠ session.cache →
      ∃ clearance, gate.Cleared validate policy name identifier request session clearance) ∧
    ((∀ action, gate.action? name = some action → action.handler = none) →
      (∀ kept group, groups = some kept → gate.cacheGroup = some group →
        kept.Readable group session.cache) →
      ∀ error, outcome.1 = .error error →
        outcome.2.store = session.store ∧ outcome.2.cache = session.cache) := by
  refine ⟨runs_handler_iff, fun hchanged => ?_, fun hdefault hreadable error herror =>
    execute_error_frame hdefault hreadable herror⟩
  refine Classical.byContradiction fun hblocked => ?_
  obtain ⟨error, -, hrun⟩ := perform_execute_of_not_cleared groups hblocked
  rw [hrun] at hchanged
  rcases hchanged with hstore | hcache
  · exact hstore (checks_reads.store_eq session)
  · exact hcache (checks_reads.cache_eq session)

end Checks

/-- A gate whose posts may be updated without looking them up first. -/
def postGate : GateVersion where
  entity := "Post"
  aliasName := none
  version := none
  source := ⟨"posts", "id"⟩
  middleware := []
  filters := .empty
  operators := .empty
  customFilters := .empty
  select := []
  sorts := []
  pagination := .classic
  cache := some ⟨60, none⟩
  actions := [⟨"update", .update, .patch, .empty, ["edit"], none, none, false, none⟩]
  baseQuery := none

/-- A store with one post. -/
def postSession : Session where
  store := ⟨[("posts", { rows := [[("id", .string "a")]] })]⟩

open scoped Bundled in
/-- An update of a post that is not there passes all checks, fails late and changes nothing. -/
theorem execute_guarded_late_failure :
    let outcome := perform postSession
      (postGate.execute Validator.validate .allowAll (some ⟨"p", 0⟩) "update" (some "9") {})
    outcome.1 = .error (.reported (.notFound "Post")) ∧
      outcome.2.store = postSession.store ∧ outcome.2.cache = postSession.cache := by
  have hfailure : (perform postSession (postGate.execute Validator.validate .allowAll
      (some ⟨"p", 0⟩) "update" (some "9") {})).1 = .error (.reported (.notFound "Post")) := rfl
  refine ⟨hfailure, (execute_guarded postGate Validator.validate .allowAll (some ⟨"p", 0⟩) "update"
    (some "9") {} postSession).2.2 ?_ ?_ _ hfailure⟩
  · intro action haction
    cases Option.some.inj haction
    rfl
  · intro kept group hkept hgroup
    cases hkept
    cases hgroup
    exact ⟨nofun, nofun⟩

end GateVersion

end EntityGate
