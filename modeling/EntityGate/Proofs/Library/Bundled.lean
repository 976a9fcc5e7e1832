import EntityGate.Library.Bundled
import EntityGate.Proofs.Store.LikeExpression

/-!
# The libraries of the project do what is documented

The expressions of like patterns are read as what they write (see `Like.read_expression`). Sorting
by insertion from the end arranges preordered items as merging does: putting an item in front of the
list puts it behind those that are smaller, wherever the others have been inserted.
-/

namespace EntityGate.Bundled

/-! ## Sorting by insertion -/

section Arranging

variable {α β : Type} {order : α → α → Ordering}

theorem insert_behind_perm (item : α) (placed : List α) :
    (insertBehind order item placed).Perm (item :: placed) := by
  induction placed with
  | nil => exact .refl _
  | cons last before ih =>
      unfold insertBehind
      split
      · exact (ih.cons last).trans (.swap item last before)
      · exact .refl _

theorem foldl_insert_behind_perm (items placed : List α) :
    (items.foldl (fun placed item => insertBehind order item placed) placed).Perm
      (items ++ placed) := by
  induction items generalizing placed with
  | nil => exact .refl _
  | cons item rest ih =>
      exact (ih _).trans (((insert_behind_perm item placed).append_left rest).trans
        List.perm_middle)

theorem sort_perm (order : α → α → Ordering) (items : List α) : (sort order items).Perm items := by
  unfold sort
  split
  · have hperm : (items.foldl (fun placed item => insertBehind order item placed) []).Perm
        (items ++ []) := foldl_insert_behind_perm items []
    rw [List.append_nil] at hperm
    exact (List.reverse_perm _).trans hperm
  · exact List.mergeSort_perm items _

theorem map_insert_behind {wide : β → β → Ordering} (f : α → β)
    (h : ∀ left right, order left right = wide (f left) (f right)) (item : α) (placed : List α) :
    (insertBehind order item placed).map f = insertBehind wide (f item) (placed.map f) := by
  induction placed with
  | nil => rfl
  | cons last before ih =>
      simp only [insertBehind, List.map_cons, h]
      split
      · rw [List.map_cons, ih]
      · rfl

theorem map_insert_all {wide : β → β → Ordering} (f : α → β)
    (h : ∀ left right, order left right = wide (f left) (f right)) (items : List α) :
    (insertAll order items).map f = insertAll wide (items.map f) := by
  have hfold (placed : List α) :
      (items.foldl (fun placed item => insertBehind order item placed) placed).map f =
        (items.map f).foldl (fun placed item => insertBehind wide item placed)
          (placed.map f) := by
    induction items generalizing placed with
    | nil => rfl
    | cons item rest ih => simp only [List.foldl_cons, List.map_cons, ih, map_insert_behind f h]
  rw [insertAll, List.map_reverse, hfold]
  rfl

/-- The items with one more in front of the first that it is not greater than; they are given from
the last to the first. -/
def insertBefore (order : α → α → Ordering) (item : α) : List α → List α
  | [] => [item]
  | last :: before =>
    if order item last = .gt then item :: last :: before else last :: insertBefore order item before

theorem insert_before_append {item : α} {after before : List α}
    (hafter : ∀ other ∈ after, order item other ≠ .gt)
    (hbefore : ∀ other ∈ before, order item other = .gt) :
    insertBefore order item (after ++ before) = after ++ item :: before := by
  induction after with
  | nil =>
      cases before with
      | nil => rfl
      | cons last before => simp [insertBefore, hbefore last List.mem_cons_self]
  | cons last after ih =>
      obtain ⟨hlast, hafter⟩ := List.forall_mem_cons.mp hafter
      simp [insertBefore, hlast, ih hafter]

variable [Std.TransCmp order]

/-- It does not matter which of two items is inserted first, one before and one behind its
equals. -/
theorem insert_before_behind (first item : α) (placed : List α) :
    insertBefore order first (insertBehind order item placed) =
      insertBehind order item (insertBefore order first placed) := by
  have hswap : order first item = .gt ↔ order item first = .lt := by
    rw [Std.OrientedCmp.gt_iff_lt]
  induction placed with
  | nil =>
      simp only [insertBehind, insertBefore, hswap]
  | cons last before ih =>
      by_cases hbehind : order item last = .lt <;> by_cases hbefore : order first last = .gt
      · have hlt : order item first = .lt :=
          Std.TransCmp.lt_trans hbehind (Std.OrientedCmp.gt_iff_lt.mp hbefore)
        simp [insertBehind, insertBefore, hbehind, hbefore, hlt]
      · simp [insertBehind, insertBefore, hbehind, hbefore, ih]
      · by_cases hlt : order item first = .lt
        · simp [insertBehind, insertBefore, hbehind, hbefore, hlt, hswap.mpr hlt]
        · simp [insertBehind, insertBefore, hbehind, hbefore, hlt, hswap]
      · have hle : ¬order first item = .gt := by
          intro hgt
          refine hbehind (Std.TransCmp.lt_of_lt_of_isLE (hswap.mp hgt) ?_)
          rwa [Ordering.isLE_iff_ne_gt]
        have hlt : ¬order item first = .lt := fun hlt => hle (hswap.mpr hlt)
        simp [insertBehind, insertBefore, hbehind, hbefore, hle]

/-- An item in front of all others goes before its equals. -/
theorem insert_all_cons (item : α) (items : List α) :
    (insertAll order (item :: items)).reverse =
      insertBefore order item (insertAll order items).reverse := by
  have hfold (placed : List α) :
      items.foldl (fun placed item => insertBehind order item placed)
          (insertBefore order item placed) =
        insertBefore order item
          (items.foldl (fun placed item => insertBehind order item placed) placed) := by
    induction items generalizing placed with
    | nil => rfl
    | cons next rest ih => rw [List.foldl_cons, List.foldl_cons, ← insert_before_behind, ih]
  simp only [insertAll, List.reverse_reverse, List.foldl_cons]
  exact hfold []

/-- Inserting preordered items one after the other arranges them as merging does. -/
theorem insert_all_eq_merge_sort (items : List α) :
    insertAll order items = items.mergeSort fun left right => order left right != .gt := by
  let le (left right : α) : Bool := order left right != .gt
  have hle (left right : α) : le left right = true ↔ (order left right).isLE = true := by
    simp [le, Ordering.isLE_iff_ne_gt]
  have htrans (first second third : α) (h : le first second = true) (h' : le second third = true) :
      le first third = true := by
    rw [hle] at h h' ⊢
    exact Std.TransCmp.isLE_trans h h'
  have htotal (left right : α) : (le left right || le right left) = true := by
    have hswap : order right left = (order left right).swap := Std.OrientedCmp.eq_swap
    rw [Bool.or_eq_true, hle, hle, hswap]
    cases order left right <;> simp
  induction items with
  | nil => simp [insertAll]
  | cons item rest ih =>
      obtain ⟨before, after, hsorted, hrest, hbefore⟩ :=
        List.mergeSort_cons htrans htotal item rest
      have hpairwise := List.pairwise_mergeSort htrans htotal (item :: rest)
      rw [hsorted] at hpairwise
      have hafter : ∀ other ∈ after, le item other = true := fun _ =>
        List.rel_of_pairwise_cons (List.pairwise_append.mp hpairwise).2.1
      have hinserted : (insertAll order (item :: rest)).reverse =
          insertBefore order item (insertAll order rest).reverse := insert_all_cons item rest
      rw [ih, hrest, List.reverse_append, insert_before_append
        (fun other hother => by simpa [le] using hafter other (List.mem_reverse.mp hother))
        (fun other hother => by simpa [le] using hbefore other (List.mem_reverse.mp hother))]
        at hinserted
      rw [hsorted, ← List.reverse_reverse (insertAll order (item :: rest)), hinserted]
      simp

end Arranging

theorem sort_of_trans_cmp {α : Type} {order : α → α → Ordering} {items : List α}
    (h : Std.TransCmp fun left right : {item // item ∈ items} => order left.1 right.1) :
    sort order items = items.mergeSort fun left right => order left right != .gt := by
  unfold sort
  split
  · let within (left right : {item // item ∈ items}) : Ordering := order left.1 right.1
    have hinserted : (insertAll within items.attach).map Subtype.val =
        insertAll order (items.attach.map Subtype.val) :=
      map_insert_all Subtype.val (fun _ _ => rfl) items.attach
    have hmerged : insertAll within items.attach =
        items.attach.mergeSort fun left right => within left right != .gt :=
      insert_all_eq_merge_sort items.attach
    rw [hmerged, List.map_mergeSort (s := fun left right => order left right != .gt)
      fun _ _ _ _ => rfl, List.attach_map_subtype_val] at hinserted
    exact hinserted.symm
  · rfl

/-! ## The laws -/

/-- The libraries of the project do what is documented. -/
scoped instance : LawfulLibraries where
  like_occurs := by
    intro pattern occurs h text
    simp only [Libraries.expression, expression, Like.read_expression] at h
    split at h
    · next compiled hcompiled =>
      obtain ⟨-, hcompiled⟩ := Option.ite_none_right_eq_some.mp hcompiled
      cases hcompiled
      exact congrFun (Except.ok.inj h).symm text
    · cases h
  sort_perm := by
    intro α order items sorted h
    exact Option.some.inj h ▸ sort_perm order items
  sort_of_trans_cmp := by
    intro α order items h
    exact congrArg some (sort_of_trans_cmp h)

end EntityGate.Bundled
