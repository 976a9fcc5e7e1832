import EntityGate.Proofs.Document.Paths
import EntityGate.Proofs.Text.Paths

/-!
# What the operations of a gate are for

Each operation of a gate is there for its listing, for one of its actions or for its changelog.
Where it stands follows from what it is for, and where the actions have names of their own and no
update shares its method with a deletion, no two of them stand in one place: see `eq_of_place` for
one gate and `places_nodup` for all of them.
-/

namespace EntityGate

/-- The name that an action of a kind goes by; custom actions have names of their own. -/
def ActionKind.fixedName : ActionKind → String
  | .create => "create"
  | .update => "update"
  | .delete => "delete"
  | .custom => ""

theorem ActionKind.fixed_name_of_name {name : String} (h : ofName name ≠ .custom) :
    (ofName name).fixedName = name := by
  unfold ofName at h ⊢
  split at h
  · rfl
  · rfl
  · rfl
  · exact (h rfl).elim

/-- Two actions of one kind that is not custom have one name. -/
theorem ActionKind.eq_of_name {name other : String} (h : ofName name = ofName other)
    (hkind : ofName name ≠ .custom) : name = other := by
  calc name = (ofName name).fixedName := (fixed_name_of_name hkind).symm
    _ = (ofName other).fixedName := by rw [h]
    _ = other := fixed_name_of_name (h ▸ hkind)

/-- No update shares its method with a deletion. -/
def GateVersion.MethodsApart (version : GateVersion) : Prop :=
  ∀ action ∈ version.actions, ∀ other ∈ version.actions,
    action.kind = .update → other.kind = .delete → action.method ≠ other.method

/-- The actions of a version can be told apart by what a request shows. -/
structure GateVersion.Apart (version : GateVersion) : Prop where
  plain : ∀ action ∈ version.actions, Text.PlainSegment action.name
  names : (version.actions.map Action.name).Nodup
  methods : version.MethodsApart
  kinds : ∀ action ∈ version.actions, action.kind = ActionKind.ofName action.name

namespace GateVersion.Apart

variable {version : GateVersion} {action other : Action}

theorem eq_of_name (h : version.Apart) (haction : action ∈ version.actions)
    (hother : other ∈ version.actions) (hname : action.name = other.name) : action = other :=
  List.inj_on_of_nodup_map h.names haction hother hname

theorem eq_of_kind (h : version.Apart) (haction : action ∈ version.actions)
    (hother : other ∈ version.actions) (hkind : action.kind = other.kind)
    (hcustom : action.kind ≠ .custom) : action = other := by
  rw [h.kinds action haction] at hkind hcustom
  rw [h.kinds other hother] at hkind
  exact h.eq_of_name haction hother (ActionKind.eq_of_name hkind hcustom)

/-- The method tells updates and deletions apart. -/
theorem eq_of_method (h : version.Apart) (haction : action ∈ version.actions)
    (hother : other ∈ version.actions) (hkind : action.kind = .update ∨ action.kind = .delete)
    (hkind' : other.kind = .update ∨ other.kind = .delete)
    (hmethod : action.method = other.method) :
    action = other := by
  rcases hkind with hkind | hkind <;> rcases hkind' with hkind' | hkind'
  · exact h.eq_of_kind haction hother (hkind.trans hkind'.symm) (by simp [hkind])
  · exact (h.methods action haction other hother hkind hkind' hmethod).elim
  · exact (h.methods other hother action haction hkind' hkind hmethod.symm).elim
  · exact h.eq_of_kind haction hother (hkind.trans hkind'.symm) (by simp [hkind])

end GateVersion.Apart

namespace Document

/-- Where an action stands: with the listing, on the members or under its name, with an identifier
after it or without one. -/
inductive ActionPlace where
  | collection
  | member
  | named (takesId : Bool)
  deriving DecidableEq

/-- Where an action stands. -/
def placeOf (action : Action) : ActionPlace :=
  match action.kind with
  | .create => if action.method = .get then .named action.requiresIdentifier else .collection
  | .update | .delete => .member
  | .custom => .named action.requiresIdentifier

theorem place_collection {action : Action} (h : placeOf action = .collection) :
    action.kind = .create ∧ action.method ≠ .get := by
  unfold placeOf at h
  split at h
  · next hkind =>
    split at h
    · cases h
    · next hmethod => exact ⟨hkind, hmethod⟩
  all_goals cases h

theorem place_member {action : Action} (h : placeOf action = .member) :
    action.kind = .update ∨ action.kind = .delete := by
  unfold placeOf at h
  split at h
  · split at h
    all_goals cases h
  · next hkind => exact .inl hkind
  · next hkind => exact .inr hkind
  · cases h

theorem actions_plain : Text.PlainSegment "actions" := by decide +kernel

theorem changelog_plain : Text.PlainSegment "changelog" := by decide +kernel

/-- The segments after the slug of a gate for an action of a name. -/
def ActionPlace.tail (name : String) : ActionPlace → List String
  | .collection => []
  | .member => [Text.idSegment]
  | .named false => ["actions", name]
  | .named true => ["actions", name, Text.idSegment]

theorem ActionPlace.tail_ne_changelog (place : ActionPlace) (name : String) :
    place.tail name ≠ ["changelog"] := by
  unfold tail
  split
  · simp
  · decide
  · simp
  · simp

/-- The segments tell where an action stands, and its name if it stands under it. -/
theorem ActionPlace.eq_of_tail {place other : ActionPlace} {name name' : String}
    (h : place.tail name = other.tail name') :
    place = other ∧ ∀ takesId, place = .named takesId → name = name' := by
  rcases place with _ | _ | (_ | _) <;> rcases other with _ | _ | (_ | _) <;> simp_all [tail]

/-- What an operation is for. -/
inductive Target where
  | listing
  | run (action : Action)
  | changelog

namespace Target

/-- The method of an operation. -/
def method : Target → HttpMethod
  | .listing | .changelog => .get
  | .run action => action.method

/-- The segments after the slug of the gate. -/
def tail : Target → List String
  | .listing => []
  | .changelog => ["changelog"]
  | .run action => (placeOf action).tail action.name

end Target

namespace GatePage

variable {page other : GatePage}

/-- What the operations of a gate are for. -/
def targets (page : GatePage) : List Target :=
  [.listing] ++ page.version.actions.map .run ++
    (if page.gate.versionNames.isEmpty then [] else [.changelog])

/-- The operation for a target. -/
def operationFor (page : GatePage) : Target → Operation
  | .listing => page.listOperation
  | .run action => page.actionOperation action
  | .changelog => page.changelogOperation

/-- The segments of the path of a target, those of the base aside. -/
def segments (page : GatePage) (target : Target) : List String := page.names.slug :: target.tail

/-- The endpoint for a target. -/
def endpointFor (page : GatePage) (target : Target) : Endpoint :=
  ⟨page.base ++ Text.pathOf (page.segments target), target.method, page.operationFor target⟩

theorem action_path_eq (page : GatePage) (action : Action) :
    page.actionPath action = page.base ++ Text.pathOf (page.segments (.run action)) := by
  have hsuffix : actionPath.idSegment action =
      if action.requiresIdentifier then "/" ++ Text.idSegment else "" := rfl
  have hmember : "/\x7bid\x7d" = "/" ++ Text.idSegment := rfl
  have hnamed (rest : String) : "/actions/" ++ rest = "/actions" ++ ("/" ++ rest) := by
    rw [← String.append_assoc]
    rfl
  have htail : page.actionPath action =
      page.listPath ++ Text.pathOf ((placeOf action).tail action.name) := by
    unfold actionPath placeOf
    rw [hsuffix, hmember]
    cases hkind : action.kind with
    | create =>
        -- Only the method tells whether a creation stands with the listing.
        by_cases hmethod : action.method = .get
        · cases action.requiresIdentifier <;>
            simp [hmethod, hnamed, ActionPlace.tail, Text.pathOf, String.append_assoc]
        · simp [hmethod, ActionPlace.tail, Text.pathOf]
    | update => simp [ActionPlace.tail, Text.pathOf]
    | delete => simp [ActionPlace.tail, Text.pathOf]
    | custom =>
        cases action.requiresIdentifier <;>
          simp [hnamed, ActionPlace.tail, Text.pathOf, String.append_assoc]
  simp [htail, listPath, segments, Target.tail, Text.pathOf, String.append_assoc]

/-- The endpoints of a gate are those for its targets. -/
theorem endpoints_eq (page : GatePage) : page.endpoints = page.targets.map page.endpointFor := by
  have hlist : page.listPath = page.base ++ Text.pathOf (page.segments .listing) := by
    simp [listPath, segments, Target.tail, Text.pathOf, String.append_assoc]
  have hchangelog : page.listPath ++ "/changelog" =
      page.base ++ Text.pathOf (page.segments .changelog) := by
    simp [listPath, segments, Target.tail, Text.pathOf, String.append_assoc]
  unfold endpoints targets
  rw [List.map_append, List.map_append, List.map_map, hchangelog, hlist]
  refine congrArg₂ (· ++ ·) (congrArg₂ (· ++ ·) rfl (List.map_congr_left fun action _ => ?_)) ?_
  · rw [action_path_eq]
    rfl
  · split
    · rfl
    · rfl

theorem mem_endpoints {pages : List GatePage} {endpoint : Endpoint} :
    endpoint ∈ pages.flatMap endpoints ↔
      ∃ page ∈ pages, ∃ target ∈ page.targets, page.endpointFor target = endpoint := by
  simp only [List.mem_flatMap, endpoints_eq, List.mem_map]

/-- A path has a slash, which the keys that keep empty values have not. -/
theorem path_keeps_nothing (page : GatePage) (target : Target) :
    keepsEmpty (page.endpointFor target).path = false := by
  have hslash : '/' ∈ (page.endpointFor target).path.toList := by
    show '/' ∈ (page.base ++ Text.pathOf (page.names.slug :: target.tail)).toList
    rw [String.toList_append, Text.path_chars_cons]
    exact List.mem_append_right _ List.mem_cons_self
  unfold keepsEmpty
  rw [Bool.or_eq_false_iff, beq_eq_false_iff_ne, beq_eq_false_iff_ne]
  constructor
  · intro heq
    rw [heq] at hslash
    revert hslash
    decide
  · intro heq
    rw [heq] at hslash
    revert hslash
    decide

theorem endpoints_keep_nothing {pages : List GatePage} :
    ∀ endpoint ∈ pages.flatMap endpoints, keepsEmpty endpoint.path = false := by
  intro endpoint hendpoint
  obtain ⟨page, -, target, -, rfl⟩ := mem_endpoints.mp hendpoint
  exact page.path_keeps_nothing target

/-- Every operation of a gate carries the metadata of the gate. -/
theorem metadata_for (page : GatePage) (target : Target) :
    (page.operationFor target).metadata = gateMetadata page.gate page.version := by
  have hrespond (operation : Operation) (condition : Bool) (status description : String) :
      (operation.respondIf condition status description).metadata = operation.metadata := by
    unfold Operation.respondIf
    split
    · rfl
    · rfl
  have hsuccess (action : Action) (operation : Operation) :
      (page.withSuccess action operation).metadata = operation.metadata := by
    unfold withSuccess
    split
    · rfl
    · rfl
  cases target with
  | listing => rfl
  | changelog => rfl
  | run action =>
      unfold operationFor actionOperation
      simp only [hrespond, hsuccess]
      rfl

/-- There is always something to discover about a gate. -/
theorem metadata_not_empty (gate : Gate) (version : GateVersion) :
    isEmptyValue (prune (gateMetadata gate version)) = false := by
  obtain ⟨fields, hfields, hnodup, hentity⟩ : ∃ fields,
      gateMetadata gate version = .object fields ∧ (fields.map Prod.fst).Nodup ∧
        JsonFields.get? fields "entity" = some (.string version.entity) := by
    refine ⟨_, rfl, ?_, rfl⟩
    show ["entity", "filters", "sorts", "select", "pagination", "versions",
      "default_version"].Nodup
    decide
  rw [hfields]
  exact prune_not_empty hnodup rfl hentity

/-! ## Places -/

theorem mem_actions_of_target {action : Action} (h : .run action ∈ page.targets) :
    action ∈ page.version.actions := by
  unfold targets at h
  rcases List.mem_append.mp h with h | h
  · rcases List.mem_append.mp h with h | h
    · cases List.mem_singleton.mp h
    · obtain ⟨other, hother, heq⟩ := List.mem_map.mp h
      cases heq
      exact hother
  · split at h
    · cases h
    · cases List.mem_singleton.mp h

theorem tail_unbroken (h : page.version.Apart) {target : Target} (htarget : target ∈ page.targets) :
    ∀ segment ∈ target.tail, Text.Unbroken segment := by
  cases target with
  | listing => exact nofun
  | changelog => exact List.forall_mem_singleton.mpr changelog_plain.unbroken
  | run action =>
      have hname := (h.plain action (mem_actions_of_target htarget)).unbroken
      have hactions := actions_plain.unbroken
      show ∀ segment ∈ (placeOf action).tail action.name, Text.Unbroken segment
      rcases placeOf action with _ | _ | (_ | _)
      · exact nofun
      · exact List.forall_mem_singleton.mpr Text.id_unbroken
      · exact List.forall_mem_cons.mpr ⟨hactions, List.forall_mem_singleton.mpr hname⟩
      · exact List.forall_mem_cons.mpr ⟨hactions,
          List.forall_mem_cons.mpr ⟨hname, List.forall_mem_singleton.mpr Text.id_unbroken⟩⟩

/-- The path of an operation tells the gate and what stands after its slug. -/
theorem segments_eq_of_path (hslug : Text.PlainSegment page.names.slug) (h : page.version.Apart)
    (hslug' : Text.PlainSegment other.names.slug) (h' : other.version.Apart)
    {target target' : Target} (htarget : target ∈ page.targets) (htarget' : target' ∈ other.targets)
    (hbase : page.base = other.base)
    (hpath : (page.endpointFor target).path = (other.endpointFor target').path) :
    page.names.slug = other.names.slug ∧ target.tail = target'.tail := by
  have hchars : page.base ++ Text.pathOf (page.segments target) =
      page.base ++ Text.pathOf (other.segments target') := by
    refine hpath.trans ?_
    show other.base ++ _ = _
    rw [hbase]
  rw [← String.toList_inj, String.toList_append, String.toList_append,
    List.append_cancel_left_eq, String.toList_inj] at hchars
  have hsegments := Text.path_of_injective
    (List.forall_mem_cons.mpr ⟨hslug.unbroken, tail_unbroken h htarget⟩)
    (List.forall_mem_cons.mpr ⟨hslug'.unbroken, tail_unbroken h' htarget'⟩) hchars
  exact List.cons.inj hsegments

/-- Two operations of a gate in one place are one. -/
theorem eq_of_place (h : page.version.Apart) {target target' : Target}
    (htarget : target ∈ page.targets) (htarget' : target' ∈ page.targets)
    (htail : target.tail = target'.tail) (hmethod : target.method = target'.method) :
    target = target' := by
  -- An action that stands with the listing has another method.
  have hlisting {action : Action} (htail : Target.listing.tail = (Target.run action).tail) :
      action.method ≠ .get := by
    have htail' : ActionPlace.collection.tail "" = (placeOf action).tail action.name := htail
    have hplace : ActionPlace.collection = placeOf action := (ActionPlace.eq_of_tail htail').1
    exact (place_collection hplace.symm).2
  cases target with
  | listing =>
      cases target' with
      | listing => rfl
      | run action => exact (hlisting htail hmethod.symm).elim
      | changelog => exact (List.cons_ne_nil _ _ htail.symm).elim
  | changelog =>
      cases target' with
      | listing => exact (List.cons_ne_nil _ _ htail).elim
      | run action => exact ((placeOf action).tail_ne_changelog action.name htail.symm).elim
      | changelog => rfl
  | run action =>
      cases target' with
      | listing => exact (hlisting htail.symm hmethod).elim
      | changelog => exact ((placeOf action).tail_ne_changelog action.name htail).elim
      | run other =>
          have haction := mem_actions_of_target htarget
          have hother := mem_actions_of_target htarget'
          obtain ⟨hsame, hname⟩ := ActionPlace.eq_of_tail htail
          refine congrArg Target.run ?_
          cases hplace : placeOf action with
          | collection =>
              have hkind := (place_collection hplace).1
              have hkind' := (place_collection (hsame.symm.trans hplace)).1
              exact h.eq_of_kind haction hother (hkind.trans hkind'.symm) (by simp [hkind])
          | member =>
              exact h.eq_of_method haction hother (place_member hplace)
                (place_member (hsame.symm.trans hplace)) hmethod
          | named takesId => exact h.eq_of_name haction hother (hname takesId hplace)

theorem targets_nodup (h : page.version.Apart) : page.targets.Nodup := by
  have hactions : (page.version.actions.map Target.run).Nodup :=
    (List.Nodup.of_map _ h.names).map fun _ _ heq => Target.run.inj heq
  unfold targets
  rw [List.nodup_append, List.nodup_append]
  refine ⟨⟨List.nodup_singleton _, hactions, ?_⟩, ?_, ?_⟩
  · simp
  · split
    · exact List.nodup_nil
    · exact List.nodup_singleton _
  · split
    · simp
    · simp

/-- The operations of a gate stand in different places. -/
theorem page_places_nodup (hslug : Text.PlainSegment page.names.slug) (h : page.version.Apart) :
    (page.endpoints.map Endpoint.place).Nodup := by
  rw [endpoints_eq, List.map_map]
  refine List.Nodup.map_on (fun target htarget target' htarget' heq => ?_) (targets_nodup h)
  obtain ⟨hpath, hmethod⟩ := Prod.ext_iff.mp heq
  have htail := (segments_eq_of_path hslug h hslug h htarget htarget' rfl hpath).2
  exact eq_of_place h htarget htarget' htail hmethod

/-- The operations of gates with slugs of their own stand in different places. -/
theorem places_nodup {pages : List GatePage} {base : String}
    (hbase : ∀ page ∈ pages, page.base = base)
    (hslug : ∀ page ∈ pages, Text.PlainSegment page.names.slug)
    (h : ∀ page ∈ pages, page.version.Apart)
    (hslugs : (pages.map fun page => page.names.slug).Nodup) :
    ((pages.flatMap GatePage.endpoints).map Endpoint.place).Nodup := by
  rw [List.map_flatMap, List.nodup_flatMap]
  refine ⟨fun page hpage => page_places_nodup (hslug page hpage) (h page hpage), ?_⟩
  refine (List.pairwise_map.mp hslugs).imp_of_mem fun {page other} hpage hother hne => ?_
  intro place hplace hplace'
  dsimp only at hplace hplace'
  rw [endpoints_eq, List.map_map] at hplace hplace'
  obtain ⟨target, htarget, rfl⟩ := List.mem_map.mp hplace
  obtain ⟨target', htarget', heq⟩ := List.mem_map.mp hplace'
  have hsame := segments_eq_of_path (hslug page hpage) (h page hpage) (hslug other hother)
    (h other hother) htarget htarget' ((hbase page hpage).trans (hbase other hother).symm)
    (Prod.ext_iff.mp heq).1.symm
  exact hne hsame.1

end GatePage

end Document

end EntityGate
