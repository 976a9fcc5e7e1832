import EntityGate.Gate.Version
import EntityGate.Query.Sort

/-!
# From requests to queries

The query of a listing is built in a fixed order: the columns of the gate, its base query, the
filters of the request and the orderings of the request. Nothing that a request asks for takes back
what the base query put in.
-/

namespace EntityGate

namespace GateVersion

/-- The columns that may go to the store. -/
def columns (gate : GateVersion) : List String := gate.select.filter Identifier.isSafe

/-- A query under construction after the base query of the gate, if it has one. -/
def scopedFrom (gate : GateVersion) (request : Request) (start : SelectQuery) : SelectQuery :=
  match gate.baseQuery with
  | some base => base start request
  | none => start

/-- The query of a listing before the filters of the request. -/
def scope (gate : GateVersion) (request : Request) : SelectQuery :=
  gate.scopedFrom request { columns := gate.columns }

/-- The pattern of a `like` filter: a value without a per cent sign may stand anywhere. -/
def likePattern (value : Json) : String :=
  let raw := match value with
    | .string text => text
    | other => other.compact
  if raw.toList.contains '%' then raw else "%" ++ raw ++ "%"

/-- The predicate that an instruction asks for, its values typed by the kind of the field. An
operator whose value has another shape asks for nothing. -/
def filterPredicate? (kind : ValueKind) (instruction : FilterInstruction) : Option Predicate :=
  let field := instruction.field
  match instruction.operator, instruction.value with
  | .eq, .null => some (.isNull field false)
  | .neq, .null => some (.isNull field true)
  | .like, .scalar value => some (.like field (likePattern value))
  | .oneOf, .list (first :: rest) => some (.oneOf field ((first :: rest).map kind.coerce) kind)
  | .between, .list [low, high] => some (.between field (kind.coerce low) (kind.coerce high) kind)
  | operator, .scalar value =>
    operator.comparison?.map fun comparison =>
      .compare field comparison (kind.coerce value) kind
  | _, _ => none

/-- What an instruction asks of the query: the custom filter of its field decides if there is
one. -/
def filterSteps (gate : GateVersion) (instruction : FilterInstruction) : List QueryStep :=
  match gate.customFilters.find? instruction.field with
  | some custom => custom instruction
  | none =>
    ((filterPredicate? (gate.kindOf instruction.field) instruction).map
      QueryStep.addPredicate).toList

/-- Whether listings may be sorted by a field. -/
def sortsBy (gate : GateVersion) (field : String) : Bool :=
  Identifier.isSafe field && (gate.sorts.isEmpty || gate.sorts.contains field)

/-- The orderings of a request that the gate accepts. -/
def acceptedOrders (gate : GateVersion) (request : Request) : List OrderTerm :=
  (Sort.parse request.sort).filter fun term => gate.sortsBy term.field

/-- The query of a listing after the filters of the request. -/
def filtered (gate : GateVersion) (request : Request) (instructions : List FilterInstruction) :
    SelectQuery :=
  (gate.scope request).steps (instructions.flatMap gate.filterSteps)

/-- The query of a listing. -/
def listingQuery (gate : GateVersion) (validate : InputValidator) (request : Request) :
    Except RequestError SelectQuery := do
  let instructions ← gate.grammar.parse validate request.filters
  return (gate.acceptedOrders request).foldl
    (fun query term => query.addOrder term.field term.direction)
    (gate.filtered request instructions)

end GateVersion

end EntityGate
