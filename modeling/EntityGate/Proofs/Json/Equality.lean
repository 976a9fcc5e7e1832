import EntityGate.Json.Basic
import EntityGate.Proofs.Data.Entries

/-!
# Equality of values

Values that equal the same value are chained by equality, at any depth of arrays and objects: see
`same_value_trans`. A not-a-number equals nothing, so that equality need not hold of a value and
itself. The order of the fields of an object does not matter: see `same_object_of_keys`.
-/

namespace EntityGate

namespace Binary64

/-- Doubles are equal if both are numbers with the same place in the order. -/
theorem num_eq_iff {left right : Binary64} : left.numEq right = true ↔
    left.isNaN = false ∧ right.isNaN = false ∧ left.orderKey = right.orderKey := by
  unfold numEq compare?
  cases left.isNaN <;> cases right.isNaN <;> simp

end Binary64

theorem JsonNumber.same_value_trans {first second third : JsonNumber}
    (h : first.sameValue second = true) (hnext : second.sameValue third = true) :
    first.sameValue third = true := by
  cases first <;> cases second <;> cases third <;>
    simp_all [JsonNumber.sameValue, Binary64.num_eq_iff]

namespace Json

/-- Every field on the left has an equal value under the same key on the right. -/
theorem same_fields_iff {left right : List (String × Json)} : sameFields left right = true ↔
    ∀ field ∈ left, ∃ other, right.lookup field.1 = some other ∧
      field.2.sameValue other = true := by
  induction left with
  | nil => simp [sameFields]
  | cons field rest ih =>
      obtain ⟨key, value⟩ := field
      rw [sameFields, Bool.and_eq_true, ih, List.forall_mem_cons]
      cases right.lookup key <;> simp

mutual

/-- Equality leads on from value to value. -/
theorem same_value_trans : ∀ {first second third : Json}, first.sameValue second = true →
    second.sameValue third = true → first.sameValue third = true
  | .null, second, third, h, hnext => by
      cases second <;> simp [sameValue] at h
      exact hnext
  | .bool value, second, third, h, hnext => by
      cases second <;> simp [sameValue] at h
      exact h ▸ hnext
  | .number amount, second, third, h, hnext => by
      cases second <;> simp [sameValue] at h
      cases third <;> simp [sameValue] at hnext
      exact JsonNumber.same_value_trans h hnext
  | .string text, second, third, h, hnext => by
      cases second <;> simp [sameValue] at h
      exact h ▸ hnext
  | .array items, second, third, h, hnext => by
      cases second <;> simp [sameValue] at h
      cases third <;> simp [sameValue] at hnext
      exact same_items_trans h hnext
  | .object fields, second, third, h, hnext => by
      cases second <;> simp [sameValue] at h
      cases third <;> simp [sameValue] at hnext
      simp only [sameValue, Bool.and_eq_true, beq_iff_eq]
      exact ⟨h.1.trans hnext.1, same_fields_trans h.2 hnext.2⟩

theorem same_items_trans : ∀ {first second third : List Json}, sameItems first second = true →
    sameItems second third = true → sameItems first third = true
  | [], second, third, h, hnext => by
      cases second <;> simp [sameItems] at h
      exact hnext
  | item :: items, second, third, h, hnext => by
      cases second <;> simp [sameItems] at h
      cases third <;> simp [sameItems] at hnext
      simp only [sameItems, Bool.and_eq_true]
      exact ⟨same_value_trans h.1 hnext.1, same_items_trans h.2 hnext.2⟩

theorem same_fields_trans : ∀ {first second third : List (String × Json)},
    sameFields first second = true → sameFields second third = true →
      sameFields first third = true
  | [], second, third, _, _ => rfl
  | (key, value) :: fields, second, third, h, hnext => by
      rw [same_fields_iff, List.forall_mem_cons] at h
      obtain ⟨⟨other, hother, hsame⟩, hrest⟩ := h
      -- What the second object holds under the key is one of its fields.
      obtain ⟨last, hlast, hsame'⟩ := same_fields_iff.mp hnext _ (mem_of_lookup hother)
      rw [sameFields, hlast, Bool.and_eq_true]
      exact ⟨same_value_trans hsame hsame', same_fields_trans (same_fields_iff.mpr hrest) hnext⟩

end

/-! ## The order of fields -/

theorem same_object_iff {left right : List (String × Json)} :
    (object left).sameValue (object right) = true ↔
      left.length = right.length ∧ sameFields left right = true := by
  rw [sameValue, Bool.and_eq_true, beq_iff_eq]

theorem same_items_self {items : List Json} (h : ∀ item ∈ items, item.sameValue item = true) :
    sameItems items items = true := by
  induction items with
  | nil => rfl
  | cons item rest ih =>
      rw [List.forall_mem_cons] at h
      rw [sameItems, h.1, ih h.2]
      rfl

/-- Objects that hold the same keys once each are equal if their values are, in whatever order the
fields stand. -/
theorem same_object_of_keys {left right : List (String × Json)}
    (hleft : (left.map Prod.fst).Nodup) (hright : (right.map Prod.fst).Nodup)
    (hkeys : ∀ key, key ∈ left.map Prod.fst ↔ key ∈ right.map Prod.fst)
    (hvalues : ∀ key value other, left.lookup key = some value → right.lookup key = some other →
      value.sameValue other = true) : (object left).sameValue (object right) = true := by
  have hlength : left.length = right.length := by
    simpa using ((List.perm_ext_iff_of_nodup hleft hright).mpr hkeys).length_eq
  refine same_object_iff.mpr ⟨hlength, same_fields_iff.mpr fun field hfield => ?_⟩
  have hmem := (hkeys field.1).mp (List.mem_map_of_mem hfield)
  obtain ⟨other, hother⟩ := Option.isSome_iff_exists.mp (lookup_is_some_iff.mpr hmem)
  exact ⟨other, hother, hvalues _ _ _ (lookup_of_mem hleft hfield) hother⟩

end Json

end EntityGate
