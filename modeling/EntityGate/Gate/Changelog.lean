import EntityGate.Gate.Overlay

/-!
# Changelogs

What a version adds to the state before it and what it removes, one line for each item.
-/

namespace EntityGate

/-- The changes of one version. -/
structure ChangelogEntry where
  version : String
  changes : List String
  deriving DecidableEq, Repr, Inhabited

namespace ChangelogEntry

/-- The JSON form of the changes of a version. -/
def toJson (entry : ChangelogEntry) : Json :=
  .object [("version", .string entry.version), ("changes", Json.ofStrings entry.changes)]

end ChangelogEntry

namespace Changelog

/-- The items of the first list that are not in the second. -/
def missing (items others : List String) : List String :=
  items.filter fun item => !others.contains item

/-- The lines for what was added, then those for what was removed. -/
def lines (label : String) (before after : List String) : List String :=
  (missing after before).map (fun item => "Added " ++ label ++ ": " ++ item) ++
    (missing before after).map (fun item => "Removed " ++ label ++ ": " ++ item)

/-- The lines for the operators, field by field in the order of text. -/
def operatorLines (before after : List (String × List String)) : List String :=
  let fields := (TextMap.ofList ((before ++ after).map fun entry => (entry.1, ()))).keys
  fields.flatMap fun field =>
    let named (tokens : List (String × List String)) : List String :=
      ((tokens.lookup field).getD []).map fun token => field ++ "." ++ token
    lines "operator" (named before) (named after)

/-- The changes from one state to the next. -/
def diff (before after : Overlay) : List String :=
  lines "filter" before.filterNames after.filterNames ++
    operatorLines before.operatorTokens after.operatorTokens ++
    lines "select" (before.select.getD []) (after.select.getD []) ++
    lines "sort" (before.sorts.getD []) (after.sorts.getD []) ++
    lines "action" before.actionNames after.actionNames

/-- The changes of versions that follow one another from a given state. -/
def ofVersions : Overlay → List (String × Overlay) → List ChangelogEntry
  | _, [] => []
  | previous, (version, overlay) :: rest =>
    ⟨version, diff previous overlay⟩ :: ofVersions overlay rest

end Changelog

end EntityGate
