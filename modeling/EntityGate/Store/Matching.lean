import EntityGate.Library.Basic
import EntityGate.Query.Identifier
import EntityGate.Query.Select
import EntityGate.Request.RequestError
import EntityGate.Store.Comparison

/-!
# Matching rows

When a row satisfies a predicate. A comparison with a value that is absent or not comparable
fails, whatever the comparison. Predicates are tried from left to right and no further than needed;
a like pattern that cannot be compiled is an error where it is reached.
-/

namespace EntityGate

/-- A row of a table: its columns in order. -/
abbrev Row := JsonFields

namespace Row

/-- The value below a value under the keys of a path. -/
def follow : List String → Json → Option Json
  | [], value => some value
  | key :: keys, .object fields => (JsonFields.get? fields key).bind (follow keys)
  | _ :: _, _ => none

/-- The value of a field, whose dots lead into nested objects. -/
def lookup (row : Row) (field : String) : Option Json :=
  match Identifier.segments field with
  | column :: keys => (JsonFields.get? row column).bind (follow keys)
  | [] => none

/-- The row with the given columns only, all of it for an empty list; a missing one is null. -/
def project (columns : List String) (row : Row) : Row :=
  if columns.isEmpty then row
  else JsonFields.ofList (columns.map fun column => (column, (row.lookup column).getD .null))

end Row

namespace Like

/-- Whether a value has the form of a like pattern; one that is too large is refused. -/
def test [Libraries] (pattern : String) (value : Json) : Except RequestError Bool :=
  match Libraries.expression (expression pattern) with
  | .ok occurs => .ok (occurs (textOf value))
  | .error reason => .error (.badRequest ("invalid like pattern: " ++ reason))

end Like

/-- Whether an order is one that the comparison asks for. -/
def Comparison.accepts : Comparison → Ordering → Bool
  | .eq, order => order == .eq
  | .neq, order => order != .eq
  | .lt, order => order == .lt
  | .lte, order => order != .gt
  | .gt, order => order == .gt
  | .gte, order => order != .lt

namespace Predicate

/-- Whether a stored value compares with an expected one as asked. -/
def compares (comparison : Comparison) (stored : Option Json) (expected : Json) : Bool :=
  match stored with
  | none => false
  | some value =>
    match Stored.compare? value expected with
    | some order => comparison.accepts order
    | none => false

mutual

/-- Whether the row satisfies the predicate. A like pattern is only looked at for a value that is
there and not null. -/
def test [Libraries] (row : Row) : Predicate → Except RequestError Bool
  | .compare field comparison value kind =>
    .ok (compares comparison (row.lookup field) (kind.coerce value))
  | .isNull field negated => .ok (((row.lookup field).getD .null).isNull != negated)
  | .oneOf field values kind =>
    match row.lookup field with
    | none => .ok false
    | some stored => .ok (values.any fun value => Stored.looseEq stored (kind.coerce value))
  | .between field low high kind =>
    match row.lookup field with
    | none => .ok false
    | some stored =>
      let above := (Stored.compare? stored (kind.coerce low)).any (· != .lt)
      let below := (Stored.compare? stored (kind.coerce high)).any (· != .gt)
      .ok (above && below)
  | .like field pattern =>
    match row.lookup field with
    | none | some .null => .ok false
    | some stored => Like.test pattern stored
  | .any alternatives => testSome row alternatives
  | .all conditions => testAll row conditions

/-- Whether the row satisfies one of the predicates; those after the first such are not looked
at. -/
def testSome [Libraries] (row : Row) : List Predicate → Except RequestError Bool
  | [] => .ok false
  | predicate :: rest => do
    if ← test row predicate then return true
    testSome row rest

/-- Whether the row satisfies all of the predicates; those after the first failure are not looked
at. -/
def testAll [Libraries] (row : Row) : List Predicate → Except RequestError Bool
  | [] => .ok true
  | predicate :: rest => do
    if !(← test row predicate) then return false
    testAll row rest

end

end Predicate

end EntityGate
