/-!
# Written records

A record with fixed fields is written with its fields by name, where other names are ignored and a
field given twice is an error, or as a list of its fields in order, where trailing ones may be
left out.
-/

namespace EntityGate.Record

variable {α : Type}

/-- The parts of a record by its field names; absent for a part that is not written. -/
def ofFields? (names : List String) (fields : List (String × α)) : Option (List (Option α)) :=
  if names.any fun name => decide (1 < (fields.filter fun field => field.1 == name).length) then
    none
  else some (names.map fun name => fields.lookup name)

/-- The parts of a record in the order of its field names. -/
def ofItems? (names : List String) (items : List α) : Option (List (Option α)) :=
  if names.length < items.length then none
  else some ((List.range names.length).map fun index => items[index]?)

end EntityGate.Record
