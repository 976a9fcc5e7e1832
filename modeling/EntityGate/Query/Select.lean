import EntityGate.Json.Basic
import EntityGate.Validation.ValueKind

/-!
# Select queries

A query selects rows of one table: a list of predicates that all have to hold, an order, a window
and a list of columns. An empty list of columns stands for all of them. Predicates nest through
disjunction and conjunction.
-/

namespace EntityGate

/-- A comparison of a column with a value. -/
inductive Comparison where
  | eq
  | neq
  | lt
  | lte
  | gt
  | gte
  deriving DecidableEq, Repr, Inhabited

/-- The direction of an ordering. -/
inductive SortDirection where
  | ascending
  | descending
  deriving DecidableEq, Repr, Inhabited

namespace SortDirection

/-- The direction the other way round. -/
def reversed : SortDirection → SortDirection
  | .ascending => .descending
  | .descending => .ascending

/-- The short word for the direction. -/
def word : SortDirection → String
  | .ascending => "asc"
  | .descending => "desc"

end SortDirection

/-- A condition on one row. A field with dots is a path into a JSON column. -/
inductive Predicate where
  | compare (field : String) (comparison : Comparison) (value : Json) (kind : ValueKind)
  | isNull (field : String) (negated : Bool)
  | oneOf (field : String) (values : List Json) (kind : ValueKind)
  | between (field : String) (low high : Json) (kind : ValueKind)
  | like (field : String) (pattern : String)
  | any (alternatives : List Predicate)
  | all (conditions : List Predicate)
  deriving Repr, Inhabited

/-- One ordering of a query. -/
structure OrderTerm where
  field : String
  direction : SortDirection
  deriving DecidableEq, Repr, Inhabited

/-- A query for rows of a table. -/
structure SelectQuery where
  columns : List String := []
  predicates : List Predicate := []
  orders : List OrderTerm := []
  limit : Option Nat := none
  offset : Option Nat := none
  deriving Repr, Inhabited

/-- One thing that may be asked of a query under construction. Nothing that was asked before can
be taken back, apart from the choice of columns. -/
inductive QueryStep where
  | addPredicate (predicate : Predicate)
  | addOrder (field : String) (direction : SortDirection)
  | setColumns (columns : List String)
  deriving Repr, Inhabited

namespace SelectQuery

/-- The query with one predicate more. -/
def addPredicate (query : SelectQuery) (predicate : Predicate) : SelectQuery :=
  { query with predicates := query.predicates ++ [predicate] }

/-- The query with one ordering more. -/
def addOrder (query : SelectQuery) (field : String) (direction : SortDirection) : SelectQuery :=
  { query with orders := query.orders ++ [⟨field, direction⟩] }

/-- The query after one step. -/
def step (query : SelectQuery) : QueryStep → SelectQuery
  | .addPredicate predicate => query.addPredicate predicate
  | .addOrder field direction => query.addOrder field direction
  | .setColumns columns => { query with columns := columns }

/-- The query after several steps. -/
def steps (query : SelectQuery) (list : List QueryStep) : SelectQuery := list.foldl step query

end SelectQuery

end EntityGate
