import EntityGate.Data.TextMap

/-!
# Validation errors

The messages of a failed validation, field by field. The message recorded first is the headline.
-/

namespace EntityGate

/-- The headline and the messages of each field, sorted by field. -/
structure FieldErrors where
  first : Option String := none
  messages : TextMap (List String) := .empty
  deriving Repr, Inhabited

namespace FieldErrors

/-- No errors. -/
def none : FieldErrors := {}

/-- Records a message for a field. -/
def add (errors : FieldErrors) (field message : String) : FieldErrors :=
  { first := some (errors.first.getD message)
    messages := errors.messages.insert field ((errors.messages.find? field).getD [] ++ [message]) }

/-- One message for one field. -/
def single (field message : String) : FieldErrors := none.add field message

/-- Whether nothing was recorded. -/
def isEmpty (errors : FieldErrors) : Bool := errors.messages.isEmpty

/-- The messages of a field. -/
def ofField (errors : FieldErrors) (field : String) : Option (List String) :=
  errors.messages.find? field

/-- The headline, or a general sentence when there is none. -/
def text (errors : FieldErrors) : String :=
  errors.first.getD "the given data was invalid"

end FieldErrors

end EntityGate
