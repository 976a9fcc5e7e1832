import EntityGate.Json.Printer
import EntityGate.Number.Numeral
import EntityGate.Text.Blank
import EntityGate.Text.Order

/-!
# Comparing stored values

Texts compare by their bytes and truth values with false first. A truth value compares with a
text that writes one, and otherwise both sides are taken as numbers, which a text may write too.
Any other two values are not comparable. Sorting puts absent values and nulls last and falls back
to the written form where two values are not comparable.
-/

namespace EntityGate.Stored

/-- The order of two truth values, false before true. -/
def compareBools (left right : Bool) : Ordering := compare left.toNat right.toNat

/-- The truth value that a text writes. -/
def boolOf? (text : String) : Option Bool :=
  if text = "true" ∨ text = "1" then some true
  else if text = "false" ∨ text = "0" then some false
  else none

/-- The double of a number or of a text that writes one. -/
def doubleOf? : Json → Option Binary64
  | .number value => some value.toDouble
  | .string text => Numeral.double? (Text.trimChars text.toList)
  | _ => none

/-- The order of two values taken as numbers. -/
def compareNumbers? (left right : Json) : Option Ordering := do
  let leftDouble ← doubleOf? left
  let rightDouble ← doubleOf? right
  leftDouble.compare? rightDouble

/-- The order of two values, absent when they are not comparable. -/
def compare? : Json → Json → Option Ordering
  | .null, _ | _, .null => none
  | .string left, .string right => some (Text.compareTexts left right)
  | .bool left, .bool right => some (compareBools left right)
  | .bool left, .string right => (boolOf? right).map fun parsed => compareBools left parsed
  | .string left, .bool right => (boolOf? left).map fun parsed => compareBools parsed right
  | left, right => compareNumbers? left right

/-- Whether two values are equal in comparison or as values. -/
def looseEq (left right : Json) : Bool := compare? left right == some .eq || left.sameValue right

/-- The order by which rows are sorted: absent values and nulls last. -/
def sortCompare (left right : Option Json) : Ordering :=
  match left.filter (fun value => !value.isNull), right.filter (fun value => !value.isNull) with
  | none, none => .eq
  | none, some _ => .gt
  | some _, none => .lt
  | some present, some other =>
    (compare? present other).getD (Text.compareChars present.compactChars other.compactChars)

end EntityGate.Stored
