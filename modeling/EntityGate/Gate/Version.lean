import EntityGate.Gate.Overlay
import EntityGate.Paging.Plan

/-!
# Versions of a gate

One version of a gate as requests meet it: everything that was declared, checked and resolved.
-/

namespace EntityGate

/-- How listings are kept: for how many seconds, and in which group instead of the one of the
entity. -/
structure CachePolicy where
  ttl : Nat
  name : Option String := none
  deriving DecidableEq, Repr, Inhabited

namespace CachePolicy

/-- The group of the listings of an entity. -/
def group (policy : CachePolicy) (entity : String) : String :=
  policy.name.getD ("query-gate:" ++ entity)

end CachePolicy

/-- What comes before the filters of a request: a query from the one under construction. -/
abbrev BaseQuery := SelectQuery → Request → SelectQuery

/-- One version of a gate. -/
structure GateVersion where
  entity : String
  aliasName : Option String
  version : Option String
  source : EntitySource
  middleware : List String
  filters : RuleMap
  operators : OperatorMap
  customFilters : TextMap CustomFilter
  select : List String
  sorts : List String
  pagination : PaginationMode
  cache : Option CachePolicy
  actions : List Action
  baseQuery : Option BaseQuery

namespace GateVersion

/-- The action of a name. -/
def action? (gate : GateVersion) (name : String) : Option Action :=
  gate.actions.find? fun action => action.name == name

/-- The group of the listings, if they are kept. -/
def cacheGroup (gate : GateVersion) : Option String :=
  gate.cache.map fun policy => policy.group gate.entity

/-- How the values of a filter are typed. -/
def kindOf (gate : GateVersion) (field : String) : ValueKind :=
  ((gate.filters.get? field).map ValueKind.ofRules).getD .text

/-- The fields that may be filtered by: those with rules in order, then those with a custom
filter only. -/
def filterFields (gate : GateVersion) : List String :=
  gate.filters.keys ++
    gate.customFilters.keys.filter fun field => !gate.filters.keys.contains field

/-- What decides about the filters of a request. -/
def grammar (gate : GateVersion) : Filter.Grammar :=
  ⟨gate.filters, gate.operators, gate.customFilters.keys⟩

end GateVersion

end EntityGate
