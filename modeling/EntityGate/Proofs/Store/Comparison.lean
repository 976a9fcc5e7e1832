import EntityGate.Store.Comparison

/-!
# Comparing is symmetric

Exchanging two values turns the answer of a comparison round, so that loose equality does not
depend on the order of its sides. A value that compares with anything compares equal with itself:
`compare_self_of_is_some`.
-/

namespace EntityGate

namespace Binary64

theorem compare_swap (left right : Binary64) :
    (left.compare? right).map Ordering.swap = right.compare? left := by
  unfold compare?
  rw [Bool.or_comm]
  split
  · rfl
  · simp [Std.OrientedOrd.eq_swap (a := right.orderKey)]

/-- A double that compares with anything is a number. -/
theorem compare_self_of_is_some {left right : Binary64} (h : (left.compare? right).isSome) :
    left.compare? left = some .eq := by
  unfold compare? at h ⊢
  split at h
  · simp at h
  · rename_i hnumbers
    have hleft : left.isNaN = false := by
      simp only [Bool.or_eq_true, not_or, Bool.not_eq_true] at hnumbers
      exact hnumbers.1
    simp [hleft]

end Binary64

namespace Stored

theorem compare_bools_swap (left right : Bool) :
    (compareBools left right).swap = compareBools right left := by
  cases left <;> cases right <;> rfl

@[simp] theorem compare_bools_self (value : Bool) : compareBools value value = .eq := by
  cases value <;> rfl

theorem compare_numbers_swap (left right : Json) :
    (compareNumbers? left right).map Ordering.swap = compareNumbers? right left := by
  unfold compareNumbers?
  cases doubleOf? left <;> cases doubleOf? right <;> simp [Binary64.compare_swap]

theorem compare_numbers_self_of_is_some {left right : Json}
    (h : (compareNumbers? left right).isSome) : compareNumbers? left left = some .eq := by
  unfold compareNumbers? at h ⊢
  cases hleft : doubleOf? left with
  | none => simp [hleft] at h
  | some leftDouble =>
      cases hright : doubleOf? right with
      | none => simp [hleft, hright] at h
      | some rightDouble =>
          simp only [hleft, hright, Option.bind_eq_bind, Option.bind_some] at h ⊢
          exact Binary64.compare_self_of_is_some h

/-- Exchanging the sides turns a comparison round. -/
theorem compare_swap (left right : Json) :
    (compare? left right).map Ordering.swap = compare? right left := by
  cases left <;> cases right <;>
    simp [compare?, compare_bools_swap, Text.compare_texts_swap, compare_numbers_swap,
      Function.comp_def]

/-- A value that compares with anything compares equal with itself. -/
theorem compare_self_of_is_some {left right : Json} (h : (compare? left right).isSome) :
    compare? left left = some .eq := by
  cases left with
  | null => cases right <;> simp [compare?] at h
  | bool value => simp [compare?]
  | string text => simp [compare?]
  | number value =>
      cases right with
      | null => simp [compare?] at h
      | _ => exact compare_numbers_self_of_is_some h
  | array items => cases right <;> simp [compare?, compareNumbers?, doubleOf?] at h
  | object fields => cases right <;> simp [compare?, compareNumbers?, doubleOf?] at h

/-- A value that compares with anything is loosely equal to itself. -/
theorem loose_eq_self {left right : Json} (h : (compare? left right).isSome) :
    looseEq left left = true := by
  simp [looseEq, compare_self_of_is_some h]

end Stored

end EntityGate
