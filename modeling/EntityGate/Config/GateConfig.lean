import EntityGate.Config.Node
import EntityGate.Gate.Version

/-!
# Written gates

The form in which a gate is written into a configuration file: every part that was set, and
nothing else. What cannot be written, such as a custom filter, is reported by name when a gate is
written out and ignored when it is read.
-/

namespace EntityGate

/-- The written form of an action. -/
structure ActionConfig where
  method : Option String := none
  rules : Option RuleMap := none
  abilities : List String := []
  requiresIdentifier : Option Bool := none
  status : Option Nat := none
  hasHandler : Bool := false
  hasAuthorize : Bool := false
  deriving DecidableEq, Repr, Inhabited

/-- The written form of the versionable part of a gate. An action that sets nothing is absent
under its name. -/
structure OverlayConfig where
  filters : Option RuleMap := none
  allowedOperators : Option (TextMap (List String)) := none
  customFilters : List String := []
  select : Option (List String) := none
  sorts : Option (List String) := none
  actions : Option (TextMap (Option ActionConfig)) := none
  deriving DecidableEq, Repr, Inhabited

/-- The written form of a version. -/
structure VersionConfig where
  id : String
  overlay : OverlayConfig := {}
  deriving DecidableEq, Repr, Inhabited

/-- The written form of a gate. -/
structure GateConfig where
  entity : String
  aliasName : Option String := none
  table : Option String := none
  primaryKey : Option String := none
  middleware : List String := []
  overlay : OverlayConfig := {}
  pagination : Option String := none
  cache : Option CachePolicy := none
  versions : List VersionConfig := []
  defaultVersion : Option String := none
  baseQuery : Bool := false
  deriving DecidableEq, Repr, Inhabited

/-! ## Writing -/

/-- A field that is written only if it is set. -/
def optionalField (name : String) (value : Option Json) : JsonFields :=
  match value with
  | some written => [(name, written)]
  | none => []

/-- A list that is written only if it is not empty. -/
def nonEmptyField (name : String) (texts : List String) : JsonFields :=
  if texts.isEmpty then [] else [(name, Json.ofStrings texts)]

/-- A mark that is written only if it is set. -/
def markField (name : String) (mark : Bool) : JsonFields :=
  if mark then [(name, .bool true)] else []

namespace ActionConfig

/-- The JSON form of an action. -/
def toJson (config : ActionConfig) : Json :=
  .object (
    optionalField "method" (config.method.map .string) ++
    optionalField "rules" (config.rules.map RuleMap.toJson) ++
    nonEmptyField "abilities" config.abilities ++
    optionalField "requires_identifier" (config.requiresIdentifier.map .bool) ++
    optionalField "status" (config.status.map Json.ofNat) ++
    markField "has_handler" config.hasHandler ++
    markField "has_authorize" config.hasAuthorize)

end ActionConfig

namespace OverlayConfig

/-- The written filters, operators and custom filters. -/
def filterFields (config : OverlayConfig) : JsonFields :=
  optionalField "filters" (config.filters.map RuleMap.toJson) ++
  optionalField "allowed_operators" (config.allowedOperators.map fun map =>
    .object (map.entries.map fun entry => (entry.1, Json.ofStrings entry.2))) ++
  nonEmptyField "raw_filters" config.customFilters

/-- The written columns and orderings. -/
def listFields (config : OverlayConfig) : JsonFields :=
  optionalField "select" (config.select.map Json.ofStrings) ++
  optionalField "sorts" (config.sorts.map Json.ofStrings)

/-- The written actions. -/
def actionFields (config : OverlayConfig) : JsonFields :=
  optionalField "actions" (config.actions.map fun map =>
    .object (map.entries.map fun entry =>
      (entry.1, (entry.2.map ActionConfig.toJson).getD .null)))

end OverlayConfig

namespace VersionConfig

/-- The JSON form of a version. -/
def toJson (config : VersionConfig) : Json :=
  .object ([("id", .string config.id)] ++ config.overlay.filterFields ++
    config.overlay.listFields ++ config.overlay.actionFields)

end VersionConfig

namespace CachePolicy

/-- The JSON form of a cache policy. -/
def toJson (policy : CachePolicy) : Json :=
  .object ([("ttl", Json.ofNat policy.ttl)] ++ optionalField "name" (policy.name.map .string))

end CachePolicy

namespace GateConfig

/-- The JSON form of a gate. -/
def toJson (config : GateConfig) : Json :=
  .object (
    [("entity", .string config.entity)] ++
    optionalField "alias" (config.aliasName.map .string) ++
    optionalField "table" (config.table.map .string) ++
    optionalField "primary_key" (config.primaryKey.map .string) ++
    nonEmptyField "middleware" config.middleware ++
    config.overlay.filterFields ++
    config.overlay.listFields ++
    optionalField "pagination" (config.pagination.map .string) ++
    optionalField "cache" (config.cache.map CachePolicy.toJson) ++
    config.overlay.actionFields ++
    (if config.versions.isEmpty then []
      else [("versions", .array (config.versions.map VersionConfig.toJson))]) ++
    optionalField "default_version" (config.defaultVersion.map .string) ++
    markField "base_query" config.baseQuery)

end GateConfig

/-! ## Reading -/

namespace Node

/-- The texts that a list writes. -/
def texts? : Node → Option (List String) := listOf? text?

/-- The rule map that a record writes. -/
def ruleMap? (node : Node) : Option RuleMap :=
  node.fields?.bind fun fields => (RuleMap.ofFields (toJsonFields fields) RuleMap.empty).toOption

/-- The sorted map that a record writes; the last entry of a key counts. -/
def textMap? {α : Type} (read : Node → Option α) (node : Node) : Option (TextMap α) :=
  (entriesOf? read node).map TextMap.ofList

end Node

namespace ActionConfig

/-- The fields of a written action. -/
def fieldNames : List String := ["method", "rules", "abilities", "requires_identifier", "status"]

/-- The action that a record writes. -/
def ofNode? (node : Node) : Option ActionConfig := do
  match ← node.parts? fieldNames with
  | [method, rules, abilities, requiresIdentifier, status] =>
    return {
      method := ← Node.orNone? Node.text? method
      rules := ← Node.orNone? Node.ruleMap? rules
      abilities := ← Node.orDefault? [] Node.texts? abilities
      requiresIdentifier := ← Node.orNone? Node.truth? requiresIdentifier
      status := ← Node.orNone? (Node.naturalBelow? (2 ^ 16)) status }
  | _ => none

/-- The actions that a record writes by name. -/
def mapOfNode? : Node → Option (TextMap (Option ActionConfig)) :=
  Node.textMap? (Node.optional? ofNode?)

end ActionConfig

namespace OverlayConfig

/-- The versionable part from its written parts. -/
def ofParts? (filters operators select sorts actions : Option Node) : Option OverlayConfig := do
  return {
    filters := ← Node.orNone? Node.ruleMap? filters
    allowedOperators := ← Node.orNone? (Node.textMap? Node.texts?) operators
    select := ← Node.orNone? Node.texts? select
    sorts := ← Node.orNone? Node.texts? sorts
    actions := ← Node.orNone? ActionConfig.mapOfNode? actions }

end OverlayConfig

namespace VersionConfig

/-- The fields of a written version. -/
def fieldNames : List String := ["id", "filters", "allowed_operators", "select", "sorts", "actions"]

/-- The version that a record writes. -/
def ofNode? (node : Node) : Option VersionConfig := do
  match ← node.parts? fieldNames with
  | [id, filters, operators, select, sorts, actions] =>
    return {
      id := ← Node.required? Node.text? id
      overlay := ← OverlayConfig.ofParts? filters operators select sorts actions }
  | _ => none

end VersionConfig

namespace CachePolicy

/-- The cache policy that a record writes. -/
def ofNode? (node : Node) : Option CachePolicy := do
  match ← node.parts? ["ttl", "name"] with
  | [ttl, name] =>
    return ⟨← Node.required? Node.natural64? ttl, ← Node.orNone? Node.text? name⟩
  | _ => none

end CachePolicy

namespace GateConfig

/-- The fields of a written gate. -/
def fieldNames : List String :=
  ["entity", "alias", "table", "primary_key", "middleware", "filters", "allowed_operators",
    "select", "sorts", "pagination", "cache", "actions", "versions", "default_version"]

/-- The gate that a record writes. -/
def ofNode? (node : Node) : Option GateConfig := do
  match ← node.parts? fieldNames with
  | [entity, aliasName, table, primaryKey, middleware, filters, operators, select, sorts,
      pagination, cache, actions, versions, defaultVersion] =>
    return {
      entity := ← Node.required? Node.text? entity
      aliasName := ← Node.orNone? Node.text? aliasName
      table := ← Node.orNone? Node.text? table
      primaryKey := ← Node.orNone? Node.text? primaryKey
      middleware := ← Node.orDefault? [] Node.texts? middleware
      overlay := ← OverlayConfig.ofParts? filters operators select sorts actions
      pagination := ← Node.orNone? Node.text? pagination
      cache := ← Node.orNone? CachePolicy.ofNode? cache
      versions := ← Node.orDefault? [] (Node.listOf? VersionConfig.ofNode?) versions
      defaultVersion := ← Node.orNone? Node.text? defaultVersion }
  | _ => none

end GateConfig

end EntityGate
