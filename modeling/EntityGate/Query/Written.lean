import EntityGate.Query.Select

/-!
# Queries in JSON

The JSON form of queries and their predicates. A predicate is an object with one field, named for
the condition that it makes.
-/

namespace EntityGate

namespace Comparison

/-- The written name of a comparison. -/
def name : Comparison → String
  | .eq => "Eq"
  | .neq => "Neq"
  | .lt => "Lt"
  | .lte => "Lte"
  | .gt => "Gt"
  | .gte => "Gte"

/-- The comparison of a written name. -/
def ofName? (name : String) : Option Comparison :=
  [Comparison.eq, .neq, .lt, .lte, .gt, .gte].find? fun comparison => comparison.name == name

end Comparison

namespace Predicate

mutual

/-- The JSON form of a predicate. -/
def toJson : Predicate → Json
  | .compare field comparison value kind => .object [("compare",
      .array [.string field, .string comparison.name, value, .string kind.name])]
  | .isNull field negated => .object [("null", .array [.string field, .bool negated])]
  | .oneOf field values kind =>
    .object [("in", .array [.string field, .array values, .string kind.name])]
  | .between field low high kind =>
    .object [("between", .array [.string field, low, high, .string kind.name])]
  | .like field pattern => .object [("like", .array [.string field, .string pattern])]
  | .any alternatives => .object [("any", .array (listToJson alternatives))]
  | .all conditions => .object [("all", .array (listToJson conditions))]

/-- The JSON forms of predicates. -/
def listToJson : List Predicate → List Json
  | [] => []
  | predicate :: rest => toJson predicate :: listToJson rest

end

mutual

/-- The predicate of a JSON form. -/
def ofJson? : Json → Option Predicate
  | .object [("compare", .array [.string field, .string comparison, value, .string kind])] => do
    return .compare field (← Comparison.ofName? comparison) value (← ValueKind.ofName? kind)
  | .object [("null", .array [.string field, .bool negated])] => some (.isNull field negated)
  | .object [("in", .array [.string field, .array values, .string kind])] => do
    return .oneOf field values (← ValueKind.ofName? kind)
  | .object [("between", .array [.string field, low, high, .string kind])] => do
    return .between field low high (← ValueKind.ofName? kind)
  | .object [("like", .array [.string field, .string pattern])] => some (.like field pattern)
  | .object [("any", .array alternatives)] => (listOfJson? alternatives).map .any
  | .object [("all", .array conditions)] => (listOfJson? conditions).map .all
  | _ => none

/-- The predicates of JSON forms. -/
def listOfJson? : List Json → Option (List Predicate)
  | [] => some []
  | json :: rest => do return (← ofJson? json) :: (← listOfJson? rest)

end

end Predicate

namespace OrderTerm

/-- The JSON form of an ordering. -/
def toJson (term : OrderTerm) : Json :=
  .array [.string term.field, .string term.direction.word]

/-- The ordering of a JSON form; every direction but `desc` is ascending. -/
def ofJson? : Json → Option OrderTerm
  | .array [.string field, direction] =>
    some ⟨field, if direction.text? = some "desc" then .descending else .ascending⟩
  | _ => none

end OrderTerm

namespace SelectQuery

/-- The JSON form of a query. -/
def toJson (query : SelectQuery) : Json :=
  .object [
    ("columns", Json.ofStrings query.columns),
    ("predicates", .array (Predicate.listToJson query.predicates)),
    ("orders", .array (query.orders.map OrderTerm.toJson)),
    ("limit", Json.ofNat? query.limit),
    ("offset", Json.ofNat? query.offset)]

/-- The natural number under a key. -/
def naturalAt? (json : Json) (key : String) : Option Nat :=
  match json.get? key with
  | some (.number value) => value.toUnsigned?
  | _ => none

/-- The items under a key, none when there is no array. -/
def itemsAt (json : Json) (key : String) : List Json :=
  ((json.get? key).bind Json.items?).getD []

/-- The query of a JSON form, of which every part may be missing. -/
def ofJson? (json : Json) : Option SelectQuery := do
  return {
    columns := (itemsAt json "columns").filterMap Json.text?
    predicates := ← Predicate.listOfJson? (itemsAt json "predicates")
    orders := ← (itemsAt json "orders").mapM OrderTerm.ofJson?
    limit := naturalAt? json "limit"
    offset := naturalAt? json "offset" }

end SelectQuery

end EntityGate
