import EntityGate.Gate.Changelog
import EntityGate.Gate.Version
import EntityGate.Text.Naming

/-!
# Gates

A gate says how one entity type may be read and changed. It is declared step by step and checked
as a whole when it is built; every version is resolved then, so that a request only picks one.
The version without a name holds what was declared last of all.
-/

namespace EntityGate

/-- The declaration of a gate. Once the first version is declared, what stood before it is
kept. -/
structure GateDraft where
  entity : String
  aliasName : Option String := none
  table : Option String := none
  primaryKey : Option String := none
  baseQuery : Option BaseQuery := none
  middleware : List String := []
  overlay : Overlay := {}
  pagination : Option PaginationMode := none
  cacheTtl : Option Nat := none
  cacheName : Option String := none
  beforeVersions : Option Overlay := none
  versions : List (String × Overlay) := []
  defaultVersion : Option String := none

/-- One thing that may be declared about a gate. -/
inductive GateStep where
  | aliasName (name : String)
  | table (name : String)
  | primaryKey (column : String)
  | baseQuery (base : BaseQuery)
  | middleware (name : String)
  | overlay (step : OverlayStep)
  | pagination (mode : PaginationMode)
  | cache (ttl : Nat)
  | cacheName (name : String)
  | version (id : String) (change : Overlay → Overlay)
  | defaultVersion (id : String)

/-- A gate with all its versions. -/
structure Gate where
  draft : GateDraft
  source : EntitySource
  cache : Option CachePolicy
  base : GateVersion
  versions : List (String × GateVersion)
  changelog : List ChangelogEntry

namespace GateDraft

/-- The declaration of a gate for an entity type, trimmed. -/
def make (entity : String) : GateDraft := { entity := Text.trim entity }

/-- The declaration with an alias, trimmed; a blank one is none. -/
def withAlias (draft : GateDraft) (name : String) : GateDraft :=
  { draft with aliasName := Text.nonBlank? name }

/-- The declaration with a version, made from what stands now. Later declarations build on it. -/
def declareVersion (draft : GateDraft) (id : String) (change : Overlay → Overlay) : GateDraft :=
  let snapshot := change draft.overlay
  { draft with
    beforeVersions := some (draft.beforeVersions.getD draft.overlay)
    overlay := snapshot
    versions := draft.versions ++ [(Text.trim id, snapshot)] }

/-- The declaration after one more thing is declared. -/
def step (draft : GateDraft) : GateStep → GateDraft
  | .aliasName name => draft.withAlias name
  | .table name => { draft with table := some name }
  | .primaryKey column => { draft with primaryKey := some column }
  | .baseQuery base => { draft with baseQuery := some base }
  | .middleware name => { draft with middleware := draft.middleware ++ [name] }
  | .overlay change => { draft with overlay := draft.overlay.step change }
  | .pagination mode => { draft with pagination := some mode }
  | .cache ttl => { draft with cacheTtl := some ttl }
  | .cacheName name => { draft with cacheName := some name }
  | .version id change => draft.declareVersion id change
  | .defaultVersion id => { draft with defaultVersion := some id }

/-- The declaration after several steps. -/
def steps (draft : GateDraft) (list : List GateStep) : GateDraft := list.foldl step draft

/-- What stood before the first version. -/
def firstOverlay (draft : GateDraft) : Overlay := draft.beforeVersions.getD draft.overlay

/-- Where the rows are: the declared table and key column, or those that follow from the entity
type. -/
def source (draft : GateDraft) : EntitySource :=
  ⟨draft.table.getD (Naming.defaultTable draft.entity), draft.primaryKey.getD "id"⟩

/-- The declared cache, whose time to live has to be there and positive. -/
def resolveCache (draft : GateDraft) : Except ConfigError (Option CachePolicy) :=
  match draft.cacheTtl, draft.cacheName with
  | none, none => .ok none
  | some (ttl + 1), name => .ok (some ⟨ttl + 1, name⟩)
  | _, _ => .error (.invalidCacheTtl draft.entity)

/-- Refuses blank names in a section. -/
def checkNames (draft : GateDraft) (sectionName : String) (names : List String) :
    Except ConfigError Unit :=
  if names.any Text.isBlankText then .error (.emptyField draft.entity sectionName) else .ok ()

/-- Refuses empty version names and those that came before. -/
def checkVersions (draft : GateDraft) : List String → List String → Except ConfigError Unit
  | _, [] => .ok ()
  | seen, id :: rest =>
    if id.isEmpty || seen.contains id then .error (.duplicateVersion draft.entity id)
    else checkVersions draft (seen ++ [id]) rest

/-- Refuses a default version that was not declared. -/
def checkDefaultVersion (draft : GateDraft) : Except ConfigError Unit :=
  match draft.defaultVersion with
  | none => .ok ()
  | some id =>
    if (draft.versions.map Prod.fst).contains id then .ok ()
    else .error (.unknownDefaultVersion draft.entity id)

/-- The operators of the tokens of one field, each once. -/
def resolveTokens (field : String) :
    List FilterOperator → List String → Except ConfigError (List FilterOperator)
  | found, [] => .ok found
  | found, token :: rest =>
    match FilterOperator.ofToken? token with
    | none => .error (.unsupportedOperator field token)
    | some operator =>
      resolveTokens field (if found.contains operator then found else found ++ [operator]) rest

/-- The operators of the fields that restrict them. -/
def resolveOperators (draft : GateDraft) :
    List (String × List String) → Except ConfigError (List (String × List FilterOperator))
  | [] => .ok []
  | (field, tokens) :: rest => do
    draft.checkNames "allowed_operators" [field]
    let operators ← resolveTokens field [] tokens
    let others ← resolveOperators draft rest
    return (field, operators) :: others

/-- A version of the gate from its overlay. -/
def compile (draft : GateDraft) (cache : Option CachePolicy) (version : Option String)
    (overlay : Overlay) : Except ConfigError GateVersion := do
  let filters := overlay.filters.getD RuleMap.empty
  draft.checkNames "filters" filters.keys
  let operators ← draft.resolveOperators (overlay.operators.getD .empty).entries
  let customFilters := overlay.customFilters.getD .empty
  draft.checkNames "raw_filters" customFilters.keys
  let select := overlay.select.getD []
  draft.checkNames "select" select
  let sorts := overlay.sorts.getD []
  draft.checkNames "sorts" sorts
  let actions ← (overlay.actions.getD []).mapM ActionDraft.compile
  return {
    entity := draft.entity
    aliasName := draft.aliasName
    version := version
    source := draft.source
    middleware := draft.middleware
    filters := filters
    operators := .ofList operators
    customFilters := customFilters
    select := select
    sorts := sorts
    pagination := draft.pagination.getD .classic
    cache := cache
    actions := actions
    baseQuery := draft.baseQuery }

/-- The versions from their overlays. -/
def compileVersions (draft : GateDraft) (cache : Option CachePolicy) :
    List (String × Overlay) → Except ConfigError (List (String × GateVersion))
  | [] => .ok []
  | (id, overlay) :: rest => do
    let version ← draft.compile cache (some id) overlay
    let others ← compileVersions draft cache rest
    return (id, version) :: others

/-- The gate of a declaration. -/
def build (draft : GateDraft) : Except ConfigError Gate := do
  if draft.entity.isEmpty then throw .emptyEntity
  let cache ← draft.resolveCache
  draft.checkNames "middleware" draft.middleware
  draft.checkVersions [] (draft.versions.map Prod.fst)
  draft.checkDefaultVersion
  let base ← draft.compile cache none draft.overlay
  let versions ← draft.compileVersions cache draft.versions
  return {
    draft := draft
    source := draft.source
    cache := cache
    base := base
    versions := versions
    changelog := Changelog.ofVersions (draft.beforeVersions.getD {}) draft.versions }

end GateDraft

namespace Gate

/-- The entity type. -/
def entity (gate : Gate) : String := gate.draft.entity

/-- The alias, if there is one. -/
def aliasName (gate : Gate) : Option String := gate.draft.aliasName

/-- The last segment of the entity type. -/
def baseName (gate : Gate) : String := Naming.baseName gate.entity

/-- The names of the versions in the order of declaration. -/
def versionNames (gate : Gate) : List String := gate.versions.map Prod.fst

/-- The version served without a wish for one: the declared default, else the last version. -/
def defaultVersion (gate : Gate) : Option String :=
  gate.draft.defaultVersion <|> gate.versionNames.getLast?

/-- The version that a request asks for, or the default one. -/
def version (gate : Gate) (wanted : Option String) : Except RequestError GateVersion :=
  match wanted <|> gate.defaultVersion with
  | none => .ok gate.base
  | some id =>
    match gate.versions.lookup id with
    | some version => .ok version
    | none => .error (.badRequest ("unknown version '" ++ id ++ "' for " ++ gate.entity))

/-- The changelog as JSON. -/
def changelogJson (gate : Gate) : Json := .array (gate.changelog.map ChangelogEntry.toJson)

/-- All versions; the gate without versions has one. -/
def allVersions (gate : Gate) : List GateVersion :=
  if gate.versions.isEmpty then [gate.base] else gate.versions.map Prod.snd

end Gate

end EntityGate
