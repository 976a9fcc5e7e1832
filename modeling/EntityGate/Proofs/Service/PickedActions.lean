import EntityGate.Proofs.Gate.WellNamed
import EntityGate.Proofs.Service.Agreement

/-!
# The action that is picked is the one that runs

A service picks an action by its kind and its method, and runs the action that it then finds under
the name of the picked one. Where the names of a version are distinct this is the same action: see
`Service.run_by_method_eq_of_apart`. They are, in all that is declared step by step, and in what is
read as long as each version has its actions written apart: see `Service.picked_action_runs`. Two
written names that differ in white space only make two actions of one name, and then the rules and
the abilities of the other action decide: see `other_action_runs`.
-/

namespace EntityGate

/-- An offered version is one of the versions of the gate. -/
theorem Gate.Offers.mem {gate : Gate} {version : GateVersion} (h : gate.Offers version) :
    version ∈ gate.base :: gate.versions.map Prod.snd := by
  rcases Gate.offers_cases h with rfl | ⟨id, hlookup⟩
  · exact List.mem_cons_self
  · exact List.mem_cons_of_mem _ (List.mem_map_of_mem (mem_of_lookup hlookup))

namespace Service

section

variable [Libraries] {service : Service} {gate : Gate} {name : String} {request : Request}
  {version : GateVersion}

omit [Libraries] in
/-- A version that is opened is offered by the gate of the name. -/
theorem offers_of_open_gate (hgate : service.gates.get? name = some gate)
    (h : service.openGate name request = .ok version) : gate.Offers version := by
  have hnamed : service.gateOf name = .ok gate := by
    rw [gateOf, hgate]
  unfold openGate at h
  rw [hnamed] at h
  obtain ⟨_, hfirst, h⟩ := except_bind_eq_ok h
  cases hfirst
  obtain ⟨found, hfound, h⟩ := except_bind_eq_ok h
  obtain ⟨_, -, h⟩ := except_bind_eq_ok h
  cases h
  exact ⟨request.version, hfound⟩

omit [Libraries] in
theorem mem_of_action_by_method {kinds : List ActionKind} {action : Action}
    (h : actionByMethod version kinds request = .ok action) : action ∈ version.actions := by
  unfold actionByMethod at h
  split at h
  · next found hfound =>
    cases h
    exact List.mem_of_find?_eq_some hfound
  · cases h

/-- Runs the action itself that the method of a request picks. -/
def runPicked (service : Service) (gate : String) (kinds : List ActionKind)
    (identifier : Option String) (request : Request) : Effect Reply := do
  let version ← Session.ofExcept (service.openGate gate request)
  let action ← Session.ofExcept (actionByMethod version kinds request)
  let outcome ← version.runAction service.validate service.policy (some service.groups) action
    identifier request
  return outcome.reply

/-- Where the actions of a gate have distinct names, the action that is picked runs. -/
theorem run_by_method_eq_of_apart (happart : gate.ActionsApart)
    (hgate : service.gates.get? name = some gate) (kinds : List ActionKind)
    (identifier : Option String) (request : Request) :
    service.runByMethod name kinds identifier request =
      service.runPicked name kinds identifier request := by
  unfold runByMethod runPicked
  refine Session.of_except_bind_congr fun version hopen => ?_
  refine Session.of_except_bind_congr fun action hpick => ?_
  have hdistinct := happart version (offers_of_open_gate hgate hopen).mem
  have hfound : version.action? action.name = some action :=
    (find_name_eq_some_iff hdistinct).mpr ⟨mem_of_action_by_method hpick, rfl⟩
  unfold execute
  rw [GateVersion.execute_of_action _ _ _ _ _ hfound]

/-- Names of actions are unique where they are written apart, and then the action that is picked is
the one that runs. Take a gate that is built from an entity type or from what is read, with whatever
is declared step by step afterwards. The actions of all its versions have distinct names exactly if
no version that is read has two written names that differ in white space only. In that case a
service that finds the gate under a name runs, for each request, the very action that it picks by
kind and method. -/
theorem picked_action_runs {versions : List VersionConfig} {start : GateDraft}
    {list : List GateStep} {gate : Gate} (hstart : GateDraft.StartsFrom versions start)
    (hlist : ∀ step ∈ list, step.WellNamed)
    (hbuild : (start.steps list).build = .ok gate) :
    (gate.ActionsApart ↔ ∀ version ∈ versions, version.overlay.ActionsApart) ∧
    ((∀ version ∈ versions, version.overlay.ActionsApart) →
      ∀ (service : Service) (name : String), service.gates.get? name = some gate →
        ∀ kinds identifier request, service.runByMethod name kinds identifier request =
          service.runPicked name kinds identifier request) := by
  have hiff := hstart.actions_apart_iff hlist (GateDraft.build_eq_ok_iff.mp hbuild)
  exact ⟨hiff, fun happart service name hgate =>
    run_by_method_eq_of_apart (hiff.mpr happart) hgate⟩

end

open scoped Bundled

/-- A name that leads anywhere in a service of one gate leads to that gate. -/
theorem get_single {gate : Gate} {name : String}
    (h : ((Service.single gate).gates.get? name).isSome = true) :
    (Service.single gate).gates.get? name = some gate := by
  obtain ⟨found, hfound⟩ := Option.isSome_iff_exists.mp h
  have hmem := GateRegistry.mem_offered found (GateRegistry.Indexed.mem_of_get hfound)
  rw [hfound, List.mem_singleton.mp hmem]

/-- Posts as they are written, with two actions in one version. -/
def apartWritten : GateConfig where
  entity := "Post"
  versions := [
    { id := "v1"
      overlay := {
        actions := some (TextMap.ofList [
          (" create", some { method := some "PUT", abilities := ["admin"] }),
          ("publish", some { method := some "POST" })]) } }]

/-- An action that is declared later takes the place of the written one of its name. -/
def laterCreation : List GateStep :=
  [.overlay (.action (ActionDraft.make "create ")), .version "v2" fun overlay => overlay]

/-- The posts are built with distinct names, and their service runs what it picks. -/
theorem picked_action_runs_of_posts : ∃ start gate,
    GateDraft.ofConfig apartWritten = .ok start ∧
      (start.steps laterCreation).build = .ok gate ∧ gate.ActionsApart ∧
      gate.base.actions.map Action.name = ["create", "publish"] ∧
      ∀ request, (Service.single gate).runByMethod "Post" [.create] none request =
        (Service.single gate).runPicked "Post" [.create] none request := by
  obtain ⟨start, gate, hread, hbuild, hnames, hget⟩ : ∃ start gate,
      GateDraft.ofConfig apartWritten = .ok start ∧
        (start.steps laterCreation).build = .ok gate ∧
        gate.base.actions.map Action.name = ["create", "publish"] ∧
        ((Service.single gate).gates.get? "Post").isSome = true :=
    ⟨_, _, rfl, rfl, by decide +kernel, by decide +kernel⟩
  have hlist : ∀ step ∈ laterCreation, step.WellNamed :=
    List.forall_mem_cons.mpr ⟨Text.trim_trim "create ",
      List.forall_mem_singleton.mpr fun _ => id⟩
  have hwritten : ∀ version ∈ apartWritten.versions, version.overlay.ActionsApart := by
    decide +kernel
  obtain ⟨hapart, hruns⟩ := picked_action_runs (.ofConfig hread) hlist hbuild
  exact ⟨start, gate, hread, hbuild, hapart.mpr hwritten, hnames,
    hruns hwritten (Service.single gate) "Post" (get_single hget) [.create] none⟩

end Service

/-- Posts as they are written, with two names of one action; only the first one asks for an
ability. -/
def guardedWritten : GateConfig where
  entity := "Post"
  versions := [
    { id := "v1"
      overlay := {
        actions := some (TextMap.ofList [
          (" create", some { method := some "PUT", abilities := ["admin"] }),
          ("create", some { method := some "POST" })]) } }]

/-- A message that creates a post. -/
def postMessage : Message :=
  { method := "POST", path := "/query/Post", headers := [("content-type", "application/json")],
    body := "\x7b\"title\":\"x\"\x7d" }

open scoped Bundled in
/-- Both actions are called create. A message to create a post picks the second one, which asks for
nothing, and runs the first one, which refuses it because no ability is granted. -/
theorem other_action_runs : ∃ draft gate version picked,
    GateDraft.ofConfig guardedWritten = .ok draft ∧ draft.build = .ok gate ∧
      gate.version (some "v1") = .ok version ∧
      version.actions.map Action.name = ["create", "create"] ∧
      Service.actionByMethod version [.create] { method := "POST" } = .ok picked ∧
      picked.abilities = [] ∧
      (({ Service.single gate with policy := .abilities [] } : Service).respond postMessage {}).1 =
        some (.json 403 (RequestError.forbidden "This action is unauthorized.").body) := by
  refine ⟨_, _, _, _, rfl, rfl, rfl, ?_, rfl, ?_, ?_⟩ <;> decide +kernel

end EntityGate
