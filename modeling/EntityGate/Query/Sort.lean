import EntityGate.Query.Select

/-!
# Sort expressions

A sort expression is a list of segments parted by commas, each a field with an optional direction
after a colon. A direction that is not `desc` is ascending, and a segment without a field is
skipped.
-/

namespace EntityGate.Sort

/-- The direction that a word writes. -/
def direction (word : String) : SortDirection :=
  if Text.lowerAscii word = "desc" then .descending else .ascending

/-- The ordering that a segment writes. -/
def segment? (segment : String) : Option OrderTerm :=
  let (field, word) := match Text.cut? ':' segment with
    | some (field, word) => (Text.trim field, Text.trim word)
    | none => (Text.trim segment, "")
  if field.isEmpty then none else some ⟨field, direction word⟩

/-- The orderings that an expression writes. -/
def parse : Option String → List OrderTerm
  | none => []
  | some expression => (Text.split (· == ',') expression).filterMap segment?

end EntityGate.Sort
