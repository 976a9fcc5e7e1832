import EntityGate.Library.Bundled
import EntityGate.Proofs.Gate.Registry
import EntityGate.Proofs.Service.Answers

/-!
# The document and the routes describe one API

The document of a service lists one operation for each listing, action and changelog of its gates in
their default versions, and nothing else; a message sent to the place of an operation gets what the
operation is for. Read `Service.Describes` for what this means and `document_describes_routes` for
the result: it holds where segments are plain, actions of one gate have different names and no
update shares its method with a deletion. Two written actions whose names differ in white space only
have one name, and then one of them is documented and cannot be reached: see
`equal_names_hide_an_action`.
-/

namespace EntityGate

open Document Text

namespace Document

/-- There is a page for each gate, in its default version and under its slug. -/
theorem pages_of_gates (registry : GateRegistry) (settings : GateSettings)
    (h : ∀ gate ∈ registry.gates, ∃ version, gate.version none = .ok version) :
    ∃ list, pages registry settings = .ok list ∧ list.map GatePage.gate = registry.gates ∧
      ∀ page ∈ list, page.gate.version none = .ok page.version ∧
        page.names.slug = registry.slug page.gate ∧ page.base = settings.routeBase := by
  unfold pages namedGates
  generalize (securityScheme? settings).map SecurityScheme.name = security
  generalize settings.routeBase = base
  generalize registry.gates = gates at h
  generalize ([] : List String) = taken
  -- One gate after the other, whatever components are taken by then.
  induction gates generalizing taken with
  | nil => exact ⟨[], rfl, rfl, fun page hpage => (List.not_mem_nil hpage).elim⟩
  | cons gate rest ih =>
      obtain ⟨version, hversion⟩ := h gate List.mem_cons_self
      let names := Names.ofGate registry gate taken
      obtain ⟨others, hothers, hgates, hpages⟩ := ih
        (fun other hother => h other (List.mem_cons_of_mem _ hother)) (taken ++ [names.component])
      let page : GatePage := ⟨gate, version, names, base, security⟩
      refine ⟨page :: others, ?_, congrArg (gate :: ·) hgates, ?_⟩
      · show (gate.version none >>= _) = _
        rw [hversion]
        show (pagesOf base security
          (namesFrom registry (taken ++ [names.component]) rest) >>= _) = _
        rw [hothers]
        rfl
      · exact List.forall_mem_cons.mpr ⟨⟨hversion, rfl, rfl⟩, hpages⟩

end Document

namespace Service

/-- The segments of the paths of a service are plain: the one that it is mounted on, the slugs of
its gates and the names of the actions of their default versions. -/
structure Plain (service : Service) : Prop where
  mount : PlainSegment (GateSettings.stripSlashes service.settings.routePrefix)
  slug : ∀ gate ∈ service.gates.gates, PlainSegment (service.gates.slug gate)
  action : ∀ gate ∈ service.gates.gates, ∀ version, gate.version none = .ok version →
    ∀ action ∈ version.actions, PlainSegment action.name

/-- No default version updates and deletes with one method. -/
def MethodsApart (service : Service) : Prop :=
  ∀ gate ∈ service.gates.gates, ∀ version, gate.version none = .ok version → version.MethodsApart

/-- The actions of each default version have names of their own. -/
def NamesApart (service : Service) : Prop :=
  ∀ gate ∈ service.gates.gates, ∀ version, gate.version none = .ok version →
    (version.actions.map Action.name).Nodup

/-- The message goes to an endpoint with an identifier in its path; it is within the limit, and its
request asks for no version. -/
structure Sends (service : Service) (message : Message) (endpoint : Endpoint) (id : String) :
    Prop where
  id_plain : PlainSegment id
  id_ne : id ≠ "changelog"
  method : message.method = endpoint.method.token
  path : message.path = fillPath id endpoint.path
  length : message.announcesTooMuch service.settings.bodyLimit = false
  version : ∀ request, message.request service.settings.bodyLimit = .ok request →
    request.version = none

/-- The document of a service describes its routes, one page for each gate. -/
structure Describes [Libraries] (document : Json) (service : Service) (pages : List GatePage) :
    Prop where
  /-- There is a page for each gate. -/
  gates : pages.map GatePage.gate = service.gates.gates
  /-- A page shows the default version. -/
  versions : ∀ page ∈ pages, page.gate.version none = .ok page.version
  /-- No two operations of the document stand in one place. -/
  places : ((pages.flatMap fun page => page.targets.map page.endpointFor).map
    Endpoint.place).Nodup
  /-- What stands in the document are the operations for the targets of the gates. -/
  operations : ∀ path key json, operationAt? document path key = some json ↔
    ∃ page ∈ pages, ∃ target ∈ page.targets, (page.endpointFor target).path = path ∧
      methodKey target.method = key ∧ prune (page.operationFor target).toJson = json
  /-- Every operation carries the metadata of its gate. -/
  metadata : ∀ page ∈ pages, ∀ target ∈ page.targets,
    (operationAt? document (page.endpointFor target).path (methodKey target.method)).bind
      (fun json => json.get? "x-query-gate") = some (prune (gateMetadata page.gate page.version))
  /-- There are no other paths. -/
  paths : ∀ path, (pathAt? document path).isSome →
    ∃ page ∈ pages, ∃ target ∈ page.targets, (page.endpointFor target).path = path
  /-- A message to an operation gets what the operation is for. -/
  routed : ∀ page ∈ pages, ∀ target ∈ page.targets, ∀ id message,
    service.Sends message (page.endpointFor target) id →
      service.respond message =
        replyOf (service.serve page id (message.request service.settings.bodyLimit) target)

end Service

theorem Gate.Declared.built {gate : Gate} (h : gate.Declared) : gate.Built :=
  h.imp fun _ hdraft => hdraft.2

theorem Message.method_of_request {message : Message} {limit : Nat} {request : Request}
    (h : message.request limit = .ok request) : request.method = message.method := by
  obtain ⟨_, _, h⟩ := except_bind_eq_ok h
  obtain ⟨_, _, h⟩ := except_bind_eq_ok h
  cases h
  rfl

theorem GateSettings.route_base_of_mount {settings : GateSettings}
    (h : PlainSegment (stripSlashes settings.routePrefix)) :
    settings.routeBase = pathOf [stripSlashes settings.routePrefix] := by
  have hfilled : (stripSlashes settings.routePrefix).isEmpty = false := by
    rw [Bool.eq_false_iff, ne_eq, String.isEmpty_iff]
    exact h.ne_empty
  rw [routeBase, hfilled]
  simp [pathOf]

/-- The operations of the document of some pages are those for their targets. -/
theorem Document.operation_of_pages {settings : GateSettings} {pages : List GatePage}
    (hplaces : ((pages.flatMap GatePage.endpoints).map Endpoint.place).Nodup) (path key : String)
    (json : Json) :
    operationAt? (prune (ofPages settings pages)) path key = some json ↔
      ∃ page ∈ pages, ∃ target ∈ page.targets, (page.endpointFor target).path = path ∧
        methodKey target.method = key ∧ prune (page.operationFor target).toJson = json := by
  rw [operation_at_generated GatePage.endpoints_keep_nothing, Option.map_eq_some_iff]
  simp only [pathTable, PathTable.operation_of_list hplaces, GatePage.mem_endpoints]
  constructor
  · rintro ⟨_, ⟨_, ⟨page, hpage, target, htarget, rfl⟩, hpath, hkey, rfl⟩, hjson⟩
    exact ⟨page, hpage, target, htarget, hpath, hkey, hjson⟩
  · rintro ⟨page, hpage, target, htarget, hpath, hkey, hjson⟩
    exact ⟨_, ⟨_, ⟨page, hpage, target, htarget, rfl⟩, hpath, hkey, rfl⟩, hjson⟩

namespace Service

variable [Libraries] {service : Service} {pages : List GatePage}

/-- A message to an operation of a page that the service holds gets what the operation is for. -/
theorem Holds.respond_to {page : GatePage} {target : Target} {id : String} {message : Message}
    (h : service.Holds page)
    (hmount : PlainSegment (GateSettings.stripSlashes service.settings.routePrefix))
    (hbase : page.base = service.settings.routeBase) (hslug : PlainSegment page.names.slug)
    (htarget : target ∈ page.targets)
    (hsends : service.Sends message (page.endpointFor target) id) :
    service.respond message =
      replyOf (service.serve page id (message.request service.settings.bodyLimit) target) := by
  have hroute := GatePage.route_of_target hmount
    (hbase.trans (GateSettings.route_base_of_mount hmount)) hslug h.apart htarget hsends.id_plain
    hsends.id_ne
  rw [hbase, ← hsends.path] at hroute
  have hdecode := Route.decode_written
    (GatePage.route_segments_plain hslug h.apart htarget hsends.id_plain)
  have hread (hread : (target.route page.names.slug id).written.isReadOnly = true) :
      message.method = HttpMethod.get.token := by
    rw [hsends.method]
    exact congrArg HttpMethod.token (method_of_read_only hread)
  rw [respond_on_route hroute hdecode (route_not_common target _ _) hread hsends.length]
  refine congrArg replyOf (h.answer_target htarget fun request hrequest => ?_)
  exact ⟨hsends.version request hrequest, (Message.method_of_request hrequest).trans hsends.method⟩

/-- The pages of a service that holds all of them make a document that describes it. -/
theorem describes_of_holds (hgates : pages.map GatePage.gate = service.gates.gates)
    (hmount : PlainSegment (GateSettings.stripSlashes service.settings.routePrefix))
    (hbase : ∀ page ∈ pages, page.base = service.settings.routeBase)
    (hslug : ∀ page ∈ pages, PlainSegment page.names.slug)
    (hholds : ∀ page ∈ pages, service.Holds page)
    (hplaces : ((pages.flatMap GatePage.endpoints).map Endpoint.place).Nodup) :
    service.Describes (prune (ofPages service.settings pages)) pages := by
  exact {
    gates := hgates
    versions := fun page hpage => (hholds page hpage).version
    places := by
      rwa [show GatePage.endpoints = fun page => page.targets.map page.endpointFor from
        funext GatePage.endpoints_eq] at hplaces
    operations := operation_of_pages hplaces
    metadata := by
      intro page hpage target htarget
      have hmetadata := page.metadata_for target
      rw [(operation_of_pages hplaces _ _ _).mpr ⟨page, hpage, target, htarget, rfl, rfl, rfl⟩,
        Option.bind_some, metadata_of_operation (hmetadata ▸ GatePage.metadata_not_empty _ _),
        hmetadata]
    paths := by
      intro path hpath
      obtain ⟨endpoint, hendpoint, rfl⟩ := endpoint_of_path_at hpath
      obtain ⟨page, hpage, target, htarget, rfl⟩ := GatePage.mem_endpoints.mp hendpoint
      exact ⟨page, hpage, target, htarget, rfl⟩
    routed := fun page hpage _ htarget _ _ hsends =>
      (hholds page hpage).respond_to hmount (hbase page hpage) (hslug page hpage) htarget hsends }

end Service

/-- The document of a service can be made, and it describes what the routes of the service do. -/
theorem document_describes_routes [Libraries] (service : Service) (offered : List Gate)
    (hgates : service.gates = GateRegistry.offers offered)
    (hdeclared : ∀ gate ∈ offered, gate.Declared)
    (hdigests : Gate.DigestsApart service.gates.gates) (hplain : service.Plain)
    (hmethods : service.MethodsApart) (hnames : service.NamesApart) :
    ∃ document pages, generate service.gates service.settings = .ok document ∧
      service.Describes document pages := by
  have hindexed : service.gates.Indexed := by
    rw [hgates] at hdigests ⊢
    exact GateRegistry.indexed_offers hdeclared hdigests
  have hoffered : ∀ gate ∈ service.gates.gates, gate.Declared := by
    rw [hgates]
    exact fun gate hgate => hdeclared gate (GateRegistry.mem_offered gate hgate)
  obtain ⟨pages, hpages, hmap, hfacts⟩ := pages_of_gates service.gates service.settings
    fun gate hgate => (hoffered gate hgate).built.default_version
  -- Each page is about a gate of the registry, found under its slug.
  have hmem : ∀ page ∈ pages, page.gate ∈ service.gates.gates :=
    fun page hpage => hmap ▸ List.mem_map_of_mem hpage
  have hholds : ∀ page ∈ pages, service.Holds page := by
    intro page hpage
    obtain ⟨hversion, hslug, -⟩ := hfacts page hpage
    have hgate := hmem page hpage
    have hdeclared := hoffered page.gate hgate
    exact {
      gate := hslug ▸ hindexed.get_slug hgate hdeclared.trimmed
      version := hversion
      apart := {
        plain := hplain.action page.gate hgate page.version hversion
        names := hnames page.gate hgate page.version hversion
        methods := hmethods page.gate hgate page.version hversion
        kinds := hdeclared.built.offers_kinds ⟨none, hversion⟩ } }
  have hslug : ∀ page ∈ pages, PlainSegment page.names.slug := by
    intro page hpage
    rw [(hfacts page hpage).2.1]
    exact hplain.slug page.gate (hmem page hpage)
  have hbase : ∀ page ∈ pages, page.base = service.settings.routeBase :=
    fun page hpage => (hfacts page hpage).2.2
  -- Different slugs keep the operations of different gates apart.
  have hslugs : (pages.map fun page => page.names.slug).Nodup := by
    have hnodup := hindexed.slugs_nodup fun gate hgate => (hoffered gate hgate).trimmed
    rw [← hmap, List.map_map] at hnodup
    rwa [List.map_congr_left fun page hpage => (hfacts page hpage).2.1]
  have hplaces := GatePage.places_nodup hbase hslug (fun page hpage => (hholds page hpage).apart)
    hslugs
  refine ⟨prune (ofPages service.settings pages), pages, ?_, ?_⟩
  · show (Document.pages service.gates service.settings >>= _) = _
    rw [hpages]
    rfl
  · exact Service.describes_of_holds hmap hplain.mount hbase hslug hholds hplaces

/-! ## Services with one gate -/

open scoped Bundled

/-- The gate of a declaration that passes all checks. -/
def builtGate (draft : GateDraft) : Gate := draft.build.toOption.getD (plainGate draft)

theorem build_eq_built {draft : GateDraft} (h : draft.build.toOption.isSome = true) :
    draft.build = .ok (builtGate draft) := by
  unfold builtGate
  cases hbuild : draft.build with
  | error error =>
      rw [hbuild] at h
      cases h
  | ok gate => rfl

/-- The service of one gate. -/
def Service.single (gate : Gate) : Service :=
  { gates := .offers [gate], validate := Validator.validate }

/-- The actions that requests find without a version: their names, kinds and methods. -/
def Gate.actionTable (gate : Gate) : List (String × ActionKind × HttpMethod) :=
  match gate.version none with
  | .ok version => version.actions.map fun action => (action.name, action.kind, action.method)
  | .error _ => []

/-- The gate is accepted as the only one of a service; its digest is none of its other names, and
its slug is a plain segment. -/
def Gate.StandsAlone (gate : Gate) : Prop :=
  (Service.single gate).gates.gates.length = 1 ∧ gate.digest ≠ gate.entity ∧
    gate.aliasName ≠ some gate.digest ∧ gate.digest ≠ gate.baseName ∧
      PlainSegment ((Service.single gate).gates.slug gate)

instance (gate : Gate) : Decidable gate.StandsAlone :=
  inferInstanceAs (Decidable (_ ∧ _ ∧ _ ∧ _ ∧ _))

section Single

variable {gate : Gate} {table : List (String × ActionKind × HttpMethod)}

theorem gates_single (h : gate.StandsAlone) : (Service.single gate).gates.gates = [gate] :=
  List.eq_replicate_iff.mpr
    ⟨h.1, fun other hother => List.mem_singleton.mp (GateRegistry.mem_offered other hother)⟩

theorem digests_single (h : gate.StandsAlone) :
    Gate.DigestsApart (Service.single gate).gates.gates := by
  obtain ⟨-, hentity, halias, hbase, -⟩ := id h
  rw [gates_single h]
  exact ⟨List.pairwise_singleton _ _, by simpa using hentity, by simpa using halias,
    by simpa using hbase⟩

theorem table_of_version (htable : gate.actionTable = table) {version : GateVersion}
    (hversion : gate.version none = .ok version) :
    version.actions.map (fun action => (action.name, action.kind, action.method)) = table := by
  rw [← htable, Gate.actionTable, hversion]

theorem plain_single (h : gate.StandsAlone) (htable : gate.actionTable = table)
    (hplain : ∀ row ∈ table, PlainSegment row.1) : (Service.single gate).Plain := by
  have hmount : PlainSegment (GateSettings.stripSlashes "query") := by
    decide +kernel
  obtain ⟨-, -, -, -, hslug⟩ := id h
  refine ⟨hmount, ?_, ?_⟩
  · rw [gates_single h]
    exact List.forall_mem_singleton.mpr hslug
  · rw [gates_single h]
    refine List.forall_mem_singleton.mpr fun version hversion action haction => ?_
    rw [← table_of_version htable hversion] at hplain
    exact hplain _ (List.mem_map_of_mem haction)

theorem methods_single (h : gate.StandsAlone) (htable : gate.actionTable = table)
    (hmethods : ∀ row ∈ table, ∀ other ∈ table,
      row.2.1 = .update → other.2.1 = .delete → row.2.2 ≠ other.2.2) :
    (Service.single gate).MethodsApart := by
  unfold Service.MethodsApart
  rw [gates_single h]
  refine List.forall_mem_singleton.mpr fun version hversion action haction other hother => ?_
  rw [← table_of_version htable hversion] at hmethods
  exact hmethods _ (List.mem_map_of_mem haction) _ (List.mem_map_of_mem hother)

theorem names_single (h : gate.StandsAlone) (htable : gate.actionTable = table)
    (hnames : (table.map Prod.fst).Nodup) : (Service.single gate).NamesApart := by
  unfold Service.NamesApart
  rw [gates_single h]
  refine List.forall_mem_singleton.mpr fun version hversion => ?_
  rw [← table_of_version htable hversion, List.map_map] at hnames
  exact hnames

end Single

/-- Notes with the three default actions, one of their own and a version. -/
def noteDraft : GateDraft :=
  (GateDraft.make "App\\Models\\Note").steps [
    .overlay (.action (.make "create")),
    .overlay (.action (.make "update")),
    .overlay (.action (.make "delete")),
    .overlay (.action ((ActionDraft.make "archive").step (.method "PUT"))),
    .version "v1" fun overlay => overlay]

/-- Notes with all kinds of operations: the document and the routes of their service agree. -/
theorem notes_described :
    (builtGate noteDraft).actionTable =
        [("create", .create, .post), ("update", .update, .patch), ("delete", .delete, .delete),
          ("archive", .custom, .put)] ∧
      ∃ document pages,
        generate (Service.single (builtGate noteDraft)).gates {} = .ok document ∧
          (Service.single (builtGate noteDraft)).Describes document pages := by
  have hbuild : noteDraft.build = .ok (builtGate noteDraft) :=
    build_eq_built (by decide +kernel)
  have hdeclared : (builtGate noteDraft).Declared :=
    ⟨noteDraft, (GateDraft.Declared.make "App\\Models\\Note").steps _, hbuild⟩
  have halone : (builtGate noteDraft).StandsAlone := by decide +kernel
  have htable : (builtGate noteDraft).actionTable =
      [("create", .create, .post), ("update", .update, .patch), ("delete", .delete, .delete),
        ("archive", .custom, .put)] := by
    decide +kernel
  refine ⟨htable, ?_⟩
  exact document_describes_routes (Service.single (builtGate noteDraft)) [builtGate noteDraft] rfl
    (List.forall_mem_singleton.mpr hdeclared)
    (digests_single halone) (plain_single halone htable (by decide +kernel))
    (methods_single halone htable (by decide)) (names_single halone htable (by decide))

/-! ## Two written names for one action -/

/-- Posts as they are written, with two actions whose names differ in a blank. -/
def blankWritten : GateConfig where
  entity := "Post"
  versions := [
    { id := "v1"
      overlay := {
        actions := some (TextMap.ofList [
          (" a", some { method := some "POST", requiresIdentifier := some false }),
          ("a", some { method := some "PUT", requiresIdentifier := some false })]) } }]

/-- The posts as they are declared. -/
def blankDraft : GateDraft := (GateDraft.ofConfig blankWritten).toOption.getD (.make "Post")

/-- The service of the posts. -/
def blankService : Service := .single (builtGate blankDraft)

/-- A message to the second action. -/
def putMessage : Message := { method := "PUT", path := "/query/Post/actions/a" }

/-- The two actions have one name. The document lists both methods on the path of that name, but
the routes know the first action only, so that a message to the second one is refused. Apart from
the names, there is nothing wrong with the service. -/
theorem equal_names_hide_an_action :
    (builtGate blankDraft).Declared ∧ Gate.DigestsApart blankService.gates.gates ∧
      blankService.Plain ∧ blankService.MethodsApart ∧
      (builtGate blankDraft).actionTable = [("a", .custom, .post), ("a", .custom, .put)] ∧
      (∃ document, generate blankService.gates blankService.settings = .ok document ∧
        (operationAt? document "/query/Post/actions/a" "post").isSome ∧
        (operationAt? document "/query/Post/actions/a" "put").isSome) ∧
      (blankService.respond putMessage {}).1 =
        some (.json 405 (RequestError.methodNotAllowed "action 'a' expects POST").body) := by
  have hread : (GateDraft.ofConfig blankWritten).toOption.isSome = true := by decide +kernel
  have hbuild : blankDraft.build = .ok (builtGate blankDraft) := build_eq_built (by decide +kernel)
  have hdraft : GateDraft.ofConfig blankWritten = .ok blankDraft := by
    unfold blankDraft
    cases hdraft : GateDraft.ofConfig blankWritten with
    | error error =>
        rw [hdraft] at hread
        cases hread
    | ok draft => rfl
  have hdeclared : (builtGate blankDraft).Declared := ⟨blankDraft, .ofConfig hdraft, hbuild⟩
  have halone : (builtGate blankDraft).StandsAlone := by decide +kernel
  have htable : (builtGate blankDraft).actionTable =
      [("a", .custom, .post), ("a", .custom, .put)] := by
    decide +kernel
  have hlisted : ((generate blankService.gates blankService.settings).toOption.any fun document =>
      (operationAt? document "/query/Post/actions/a" "post").isSome &&
        (operationAt? document "/query/Post/actions/a" "put").isSome) = true := by
    decide +kernel
  refine ⟨hdeclared, digests_single halone, plain_single halone htable (by decide +kernel),
    methods_single halone htable (by decide), htable, ?_, by decide +kernel⟩
  cases hdocument : generate blankService.gates blankService.settings with
  | error error =>
      rw [hdocument] at hlisted
      cases hlisted
  | ok document =>
      rw [hdocument] at hlisted
      obtain ⟨hpost, hput⟩ := Bool.and_eq_true_iff.mp hlisted
      exact ⟨document, rfl, hpost, hput⟩

end EntityGate
