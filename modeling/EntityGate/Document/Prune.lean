import EntityGate.Json.Basic

/-!
# Pruning documents

Nulls, empty arrays and empty objects are dropped from a document from the inside out, so that a
container that loses all its members goes too. Under the keys where emptiness means something,
the value stays as it is, unless it is null. `prune` asks of each value that is left whether it is
empty, and `pruneEmpty` finds it out in the same pass.
-/

namespace EntityGate.Document

/-- Whether an empty value under the key carries a meaning. -/
def keepsEmpty (key : String) : Bool := key == "security" || key == "scopes"

/-- Whether the value itself is null or an empty container. -/
def isEmptyValue : Json → Bool
  | .null | .array [] | .object [] => true
  | _ => false

/-- Whether a field with a pruned value is dropped. -/
def isDropped (field : String × Json) : Bool :=
  if keepsEmpty field.1 then field.2.isNull else isEmptyValue field.2

/-- The fields without the dropped ones; each removal moves the last field into the hole. -/
def dropEmptyFields (fields : JsonFields) : JsonFields :=
  ((fields.filter isDropped).map Prod.fst).foldl JsonFields.swapRemove fields

mutual

/-- The value without empty parts inside. -/
def prune : Json → Json
  | .array items => .array (pruneItems items)
  | .object fields => .object (dropEmptyFields (pruneFields fields))
  | scalar => scalar

/-- The pruned items that are not empty. -/
def pruneItems : List Json → List Json
  | [] => []
  | item :: items =>
    let pruned := prune item
    if isEmptyValue pruned then pruneItems items else pruned :: pruneItems items

/-- The fields with pruned values. -/
def pruneFields : List (String × Json) → List (String × Json)
  | [] => []
  | (key, value) :: fields =>
    (key, if keepsEmpty key then value else prune value) :: pruneFields fields

end

/-! ## In one pass -/

mutual

/-- What is left of a value, and whether that is nothing, found out on the way. -/
def pruneEmpty : Json → Json × Bool
  | .null => (.null, true)
  | .array items =>
    let kept := pruneEmptyItems items
    (.array kept, kept.isEmpty)
  | .object fields =>
    let (visited, emptied) := pruneEmptyFields fields
    let kept := emptied.foldl JsonFields.swapRemove visited
    (.object kept, kept.isEmpty)
  | scalar => (scalar, false)

/-- What is left of the items of which something is left. -/
def pruneEmptyItems : List Json → List Json
  | [] => []
  | item :: items =>
    let (left, emptied) := pruneEmpty item
    if emptied then pruneEmptyItems items else left :: pruneEmptyItems items

/-- The fields with what is left of their values, and the keys that are to be removed. -/
def pruneEmptyFields : List (String × Json) → List (String × Json) × List String
  | [] => ([], [])
  | (key, value) :: fields =>
    let (left, emptied) := if keepsEmpty key then (value, value.isNull) else pruneEmpty value
    let (visited, keys) := pruneEmptyFields fields
    ((key, left) :: visited, if emptied then key :: keys else keys)

end

end EntityGate.Document
