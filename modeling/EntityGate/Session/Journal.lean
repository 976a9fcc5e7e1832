import EntityGate.Session.Basic
import EntityGate.Sql.Rendering

/-!
# Journal entries as statements

A call to the store read as the statement that a database would run for it.
-/

namespace EntityGate.StoreCall

/-- The word for what a call does. -/
def word : StoreCall → String
  | .fetch .. => "fetch"
  | .count .. => "count"
  | .insert .. => "insert"
  | .update .. => "update"
  | .delete .. => "delete"

/-- The statement that does what a call does, where the types of columns are unknown. -/
def statement : StoreCall → Sql.Prepared
  | .fetch source query => .select [] source.table query
  | .count source query => .count [] source.table query
  | .insert source attributes => .insert [] source.table attributes
  | .update source key attributes => .update [] source.table source.primaryKey key attributes
  | .delete source key => .delete [] source.table source.primaryKey key

end EntityGate.StoreCall
