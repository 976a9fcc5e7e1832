import EntityGate.Store.Like

/-!
# Libraries

What the program takes from libraries and does not define itself: expressions, web addresses and
sorting. Of them only what is documented may be relied on. The expressions of like patterns match as
they are written, once they can be compiled; whether one can is up to the library, which limits
their size. Sorting arranges the items, and a comparison that is consistent leads to the stable
arrangement; one that contradicts itself may lead to any arrangement or to none at all.
-/

namespace EntityGate

/-- The libraries of the program. -/
class Libraries where
  /-- The test whether an expression occurs in a text, or why there is none. -/
  expression : String → Except String (List Char → Bool)
  /-- Whether a text is a web address with a host. -/
  hasHost : String → Bool
  /-- The items arranged by a comparison, absent where sorting gave up. -/
  sort {α : Type} : (α → α → Ordering) → List α → Option (List α)

/-- Libraries that do what is documented of them. -/
class LawfulLibraries [Libraries] : Prop where
  /-- The expression of a like pattern occurs where the pattern that it writes does. -/
  like_occurs {pattern : String} {occurs : List Char → Bool} :
    Libraries.expression (Like.expression pattern) = .ok occurs →
      ∀ text, occurs text = (Like.compiled pattern.toList).occursIn text
  /-- Sorting loses and repeats no item. -/
  sort_perm {α : Type} {order : α → α → Ordering} {items sorted : List α} :
    Libraries.sort order items = some sorted → sorted.Perm items
  /-- Items that are preordered are sorted, and those that compare equal keep their order. -/
  sort_of_trans_cmp {α : Type} {order : α → α → Ordering} {items : List α} :
    Std.TransCmp (fun left right : {item // item ∈ items} => order left.1 right.1) →
      Libraries.sort order items = some (items.mergeSort fun left right => order left right != .gt)

end EntityGate
