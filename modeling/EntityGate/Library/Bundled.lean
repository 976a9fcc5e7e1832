import EntityGate.Library.Basic
import EntityGate.Pattern.Reader
import EntityGate.Text.WebAddress

/-!
# Libraries of the project

Libraries that the program can run with. Short lists are sorted by insertion from their end, so that
even a comparison that contradicts itself has a definite outcome; longer ones are merged.
-/

namespace EntityGate.Bundled

/-- The test whether an expression occurs in a text. -/
def expression (text : String) : Except String (List Char → Bool) :=
  match Pattern.read? text with
  | some pattern => .ok pattern.occursIn
  | none => .error "Compiled regex exceeds size limit of 10485760 bytes."

section

variable {α : Type} (order : α → α → Ordering)

/-- The items with one more behind the last that it is not smaller than; they are given from the
last to the first. -/
def insertBehind (item : α) : List α → List α
  | [] => [item]
  | last :: before =>
    if order item last = .lt then last :: insertBehind item before else item :: last :: before

/-- The items inserted one after the other. -/
def insertAll (items : List α) : List α :=
  (items.foldl (fun placed item => insertBehind order item placed) []).reverse

/-- The items sorted, those that compare equal in their order. -/
def sort (items : List α) : List α :=
  if items.length ≤ 20 then insertAll order items
  else items.mergeSort fun left right => order left right != .gt

example : sort (fun left right : Nat => compare (left / 10) (right / 10)) [21, 5, 27, 3] =
    [5, 3, 21, 27] := by decide

end

/-- The libraries of the project. -/
scoped instance libraries : Libraries where
  expression := expression
  hasHost := WebAddress.hasHost
  sort order items := some (sort order items)

end EntityGate.Bundled
