import EntityGate.Gate.Action

/-!
# Overlays

The part of a gate that versions may change: filters, their operators, custom filters, columns,
orderings and actions. A part that was never declared is absent. A version starts from what was
declared before it.
-/

namespace EntityGate

/-- What a filter on a field asks of the query in place of the operator's own meaning. -/
abbrev CustomFilter := FilterInstruction → List QueryStep

/-- The versionable part of a gate. -/
structure Overlay where
  filters : Option RuleMap := none
  operators : Option (TextMap (List String)) := none
  customFilters : Option (TextMap CustomFilter) := none
  select : Option (List String) := none
  sorts : Option (List String) := none
  actions : Option (List ActionDraft) := none

/-- One thing that may be declared about the versionable part. -/
inductive OverlayStep where
  | filter (field : String) (rules : Rules)
  | filters (entries : List (String × Rules))
  | withoutFilter (field : String)
  | allowedOperators (field : String) (tokens : List String)
  | customFilter (field : String) (custom : CustomFilter)
  | select (columns : List String)
  | sorts (fields : List String)
  | action (draft : ActionDraft)
  | actions (drafts : List ActionDraft)
  | withoutAction (name : String)

namespace Overlay

/-- The actions with one more, which takes the place of an action of its name. -/
def putAction (draft : ActionDraft) : List ActionDraft → List ActionDraft
  | [] => [draft]
  | other :: rest =>
    if other.name == draft.name then draft :: rest else other :: putAction draft rest

/-- The overlay with an action. -/
def addAction (overlay : Overlay) (draft : ActionDraft) : Overlay :=
  { overlay with actions := some (putAction draft (overlay.actions.getD [])) }

/-- The overlay after one more thing is declared. Leaving out a filter leaves out its operators
too; a custom filter of the field stays. -/
def step (overlay : Overlay) : OverlayStep → Overlay
  | .filter field rules =>
    { overlay with
      filters := some ((overlay.filters.getD RuleMap.empty).insert field rules.tokens) }
  | .filters entries => { overlay with filters := some (RuleMap.ofRules entries) }
  | .withoutFilter field =>
    { overlay with
      filters := overlay.filters.map fun map => map.remove field
      operators := overlay.operators.map fun map => map.erase field }
  | .allowedOperators field tokens =>
    { overlay with operators := some ((overlay.operators.getD .empty).insert field tokens) }
  | .customFilter field custom =>
    { overlay with
      customFilters := some ((overlay.customFilters.getD .empty).insert field custom) }
  | .select columns => { overlay with select := some columns }
  | .sorts fields => { overlay with sorts := some fields }
  | .action draft => overlay.addAction draft
  | .actions drafts => drafts.foldl addAction overlay
  | .withoutAction name =>
    { overlay with
      actions := overlay.actions.map fun drafts => drafts.filter fun draft => draft.name != name }

/-- The overlay after several steps. -/
def steps (overlay : Overlay) (list : List OverlayStep) : Overlay := list.foldl step overlay

/-- The fields with rules in order, then the fields that have a custom filter only. -/
def filterNames (overlay : Overlay) : List String :=
  let ruled := (overlay.filters.getD RuleMap.empty).keys
  ruled ++ (overlay.customFilters.getD .empty).keys.filter fun field => !ruled.contains field

/-- The catalog operators permitted on the fields that restrict them, as tokens in the order of
text, each once. -/
def operatorTokens (overlay : Overlay) : List (String × List String) :=
  (overlay.operators.getD .empty).entries.map fun entry =>
    (entry.1, (TextMap.ofList ((entry.2.filterMap FilterOperator.ofToken?).map fun operator =>
      (operator.token, ()))).keys)

/-- The names of the actions. -/
def actionNames (overlay : Overlay) : List String :=
  (overlay.actions.getD []).map ActionDraft.name

end Overlay

end EntityGate
