import EntityGate.Config.Declaration

/-!
# Descriptions of gates

What a built gate and its versions hold, as JSON.
-/

namespace EntityGate

namespace ActionKind

/-- The word for a kind of actions. -/
def word : ActionKind → String
  | .create => "Create"
  | .update => "Update"
  | .delete => "Delete"
  | .custom => "Custom"

end ActionKind

namespace RuleMap

/-- The fields with their rules, as a list in order. -/
def entriesJson (rules : RuleMap) : Json :=
  .array (rules.entries.map fun entry => .array [.string entry.1, Json.ofStrings entry.2])

end RuleMap

namespace Action

/-- The description of an action. -/
def describe (action : Action) : Json :=
  .object [
    ("name", .string action.name),
    ("kind", .string action.kind.word),
    ("method", .string action.method.token),
    ("rules", action.rules.entriesJson),
    ("abilities", Json.ofStrings action.abilities),
    ("authorize", .bool action.authorize.isSome),
    ("handler", .bool action.handler.isSome),
    ("requires_identifier", .bool action.requiresIdentifier),
    ("status", Json.ofNat? action.status)]

end Action

namespace GateVersion

/-- The description of a filter: its field, its rules and the kind of its values. -/
def describeFilter (gate : GateVersion) (entry : String × List String) : Json :=
  .array [.string entry.1, Json.ofStrings entry.2, .string (gate.kindOf entry.1).name]

/-- The description of the operators of a field. -/
def describeOperators (entry : String × List FilterOperator) : Json :=
  .array [.string entry.1, Json.ofStrings (entry.2.map FilterOperator.token)]

/-- The description of a version. -/
def describe (gate : GateVersion) : Json :=
  .object [
    ("entity", .string gate.entity),
    ("alias", Json.ofString? gate.aliasName),
    ("version", Json.ofString? gate.version),
    ("table", .string gate.source.table),
    ("primary_key", .string gate.source.primaryKey),
    ("middleware", Json.ofStrings gate.middleware),
    ("filters", .array (gate.filters.entries.map gate.describeFilter)),
    ("operators", .array (gate.operators.entries.map describeOperators)),
    ("raw_filters", Json.ofStrings gate.customFilters.keys),
    ("filter_fields", Json.ofStrings gate.filterFields),
    ("select", Json.ofStrings gate.select),
    ("sorts", Json.ofStrings gate.sorts),
    ("pagination", .string gate.pagination.name),
    ("cache", (gate.cache.map CachePolicy.toJson).getD .null),
    ("cache_group", Json.ofString? gate.cacheGroup),
    ("actions", .array (gate.actions.map Action.describe)),
    ("base_query", .bool gate.baseQuery.isSome)]

end GateVersion

namespace Gate

/-- The descriptions of all versions. -/
def describeVersions (gate : Gate) : Json := .array (gate.allVersions.map GateVersion.describe)

/-- The description of a gate. -/
def describe (gate : Gate) : Json :=
  .object [
    ("entity", .string gate.entity),
    ("alias", Json.ofString? gate.aliasName),
    ("base_name", .string gate.baseName),
    ("table", .string gate.source.table),
    ("primary_key", .string gate.source.primaryKey),
    ("middleware", Json.ofStrings gate.draft.middleware),
    ("cache", (gate.cache.map CachePolicy.toJson).getD .null),
    ("versions", Json.ofStrings gate.versionNames),
    ("default_version", Json.ofString? gate.defaultVersion),
    ("changelog", gate.changelogJson),
    ("config", gate.config.toJson),
    ("compiled", gate.describeVersions)]

end Gate

end EntityGate
