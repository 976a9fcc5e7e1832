import EntityGate.Config.GateConfig
import EntityGate.Gate.Basic

/-!
# Gates and their written forms

A built gate can be written out, and a written gate can be declared and built again.
-/

namespace EntityGate

namespace ActionDraft

/-- The written form of a declared action. -/
def config (draft : ActionDraft) : ActionConfig :=
  { method := draft.method
    rules := draft.rules
    abilities := draft.abilities
    requiresIdentifier := draft.requiresIdentifier
    status := draft.status
    hasHandler := draft.handler.isSome
    hasAuthorize := draft.authorize.isSome }

/-- The declaration of a written action; one that is not written out takes all defaults. -/
def ofConfig (name : String) (config : Option ActionConfig) : ActionDraft :=
  match config with
  | none => make name
  | some written =>
    { make name with
      method := written.method
      rules := written.rules
      abilities := written.abilities
      requiresIdentifier := written.requiresIdentifier
      status := written.status }

/-- The declarations of written actions in the order of their names. -/
def listOfConfig (actions : TextMap (Option ActionConfig)) : List ActionDraft :=
  actions.entries.map fun entry => ofConfig entry.1 entry.2

/-- The entry of a declared action among the written ones. -/
def configEntry (draft : ActionDraft) : String × Option ActionConfig :=
  (draft.name, if draft.config = {} then none else some draft.config)

end ActionDraft

namespace Overlay

/-- The written form of the versionable part. -/
def config (overlay : Overlay) : OverlayConfig :=
  { filters := overlay.filters
    allowedOperators := overlay.operators
    customFilters := (overlay.customFilters.getD .empty).keys
    select := overlay.select
    sorts := overlay.sorts
    actions := overlay.actions.map fun drafts =>
      TextMap.ofList (drafts.map ActionDraft.configEntry) }

/-- The overlay with every part replaced that is written. -/
def replaceBy (overlay : Overlay) (written : OverlayConfig) : Overlay :=
  { overlay with
    filters := written.filters <|> overlay.filters
    operators := written.allowedOperators <|> overlay.operators
    select := written.select <|> overlay.select
    sorts := written.sorts <|> overlay.sorts
    actions := written.actions.map ActionDraft.listOfConfig <|> overlay.actions }

end Overlay

namespace GateDraft

/-- The written form of a declaration. -/
def config (draft : GateDraft) (cache : Option CachePolicy) : GateConfig :=
  { entity := draft.entity
    aliasName := draft.aliasName
    table := draft.table
    primaryKey := draft.primaryKey
    middleware := draft.middleware
    overlay := draft.firstOverlay.config
    pagination := draft.pagination.map PaginationMode.name
    cache := cache
    versions := draft.versions.map fun version => ⟨version.1, version.2.config⟩
    defaultVersion := draft.defaultVersion
    baseQuery := draft.baseQuery.isSome }

/-- The steps that declare the versionable part of a written gate. -/
def overlaySteps (written : OverlayConfig) : List OverlayStep :=
  (match written.filters with
    | some filters => [.filters (filters.entries.map fun entry => (entry.1, .ofTexts entry.2))]
    | none => []) ++
  (((written.allowedOperators.getD .empty).entries).map fun entry =>
    .allowedOperators entry.1 entry.2) ++
  (match written.select with
    | some columns => [.select columns]
    | none => []) ++
  (match written.sorts with
    | some fields => [.sorts fields]
    | none => []) ++
  ((ActionDraft.listOfConfig (written.actions.getD .empty)).map .action)

/-- The declaration of the versions of a written gate. -/
def declareVersions (draft : GateDraft) (versions : List VersionConfig) : GateDraft :=
  versions.foldl (fun declared version =>
    declared.declareVersion version.id fun overlay => overlay.replaceBy version.overlay) draft

/-- The pagination mode of a written gate. -/
def modeOfConfig (written : GateConfig) : Except ConfigError (Option PaginationMode) :=
  match written.pagination with
  | none => .ok none
  | some name => (PaginationMode.parse name).map some

/-- The declaration of a written gate. -/
def ofConfig (written : GateConfig) : Except ConfigError GateDraft := do
  let mode ← modeOfConfig written
  let named := match written.aliasName with
    | some name => (make written.entity).withAlias name
    | none => make written.entity
  let draft : GateDraft := { named with
    table := written.table
    primaryKey := written.primaryKey
    middleware := written.middleware
    overlay := named.overlay.steps (overlaySteps written.overlay)
    pagination := mode
    cacheTtl := written.cache.map CachePolicy.ttl
    cacheName := written.cache.bind CachePolicy.name
    defaultVersion := written.defaultVersion }
  return draft.declareVersions written.versions

end GateDraft

namespace Gate

/-- The written form of a gate. -/
def config (gate : Gate) : GateConfig := gate.draft.config gate.cache

end Gate

end EntityGate
