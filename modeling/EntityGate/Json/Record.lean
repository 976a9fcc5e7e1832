import EntityGate.Data.Record
import EntityGate.Json.Reader

/-!
# Records in JSON

A record is written as an object or as an array of its fields.
-/

namespace EntityGate.Json

/-- The parts of a record by its field names; absent for a part that is not written. -/
def recordParts? (names : List String) : Json → Option (List (Option Json))
  | .object fields => (Record.ofFields? names fields).map fun parts => parts.map (·.map mergeKeys)
  | .array items => (Record.ofItems? names items).map fun parts => parts.map (·.map mergeKeys)
  | _ => none

end EntityGate.Json
