import EntityGate.Data.TextMap
import EntityGate.Query.Select

/-!
# Filter operators

The catalog of operators that a filter may name, in its fixed order.
-/

namespace EntityGate

/-- An operator of the catalog. -/
inductive FilterOperator where
  | eq
  | neq
  | lt
  | lte
  | gt
  | gte
  | like
  | oneOf
  | between
  deriving DecidableEq, Repr, Inhabited

namespace FilterOperator

/-- The whole catalog. -/
def catalog : List FilterOperator := [.eq, .neq, .lt, .lte, .gt, .gte, .like, .oneOf, .between]

/-- The token of an operator. -/
def token : FilterOperator → String
  | .eq => "eq"
  | .neq => "neq"
  | .lt => "lt"
  | .lte => "lte"
  | .gt => "gt"
  | .gte => "gte"
  | .like => "like"
  | .oneOf => "in"
  | .between => "between"

/-- The operator of a token, white space around it and the case of its letters aside. -/
def ofToken? (text : String) : Option FilterOperator :=
  let wanted := Text.lowerAscii (Text.trim text)
  catalog.find? fun operator => operator.token == wanted

/-- Whether the operator takes a list of values. -/
def isMulti : FilterOperator → Bool
  | .oneOf | .between => true
  | _ => false

/-- The comparison that the operator makes with a single value. -/
def comparison? : FilterOperator → Option Comparison
  | .eq => some .eq
  | .neq => some .neq
  | .lt => some .lt
  | .lte => some .lte
  | .gt => some .gt
  | .gte => some .gte
  | .like | .oneOf | .between => none

end FilterOperator

/-- The operators permitted on a field; a field that is not there may use the whole catalog. -/
abbrev OperatorMap := TextMap (List FilterOperator)

end EntityGate
