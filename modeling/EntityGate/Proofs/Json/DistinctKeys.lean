import EntityGate.Json.Reader
import EntityGate.Proofs.Json.Fields
import Mathlib.Data.List.Nodup

/-!
# Values that hold each key once

A field that is inserted takes the place of the one under its key, so that the objects in a value
that was read hold each of their keys once, at any depth: see `distinct_keys_of_read`.
-/

namespace EntityGate

theorem JsonFields.mem_insert {fields : JsonFields} {key : String} {value : Json}
    {field : String × Json} (h : field ∈ fields.insert key value) :
    field.2 = value ∨ field ∈ fields := by
  induction fields with
  | nil => exact .inl (List.mem_singleton.mp h ▸ rfl)
  | cons first rest ih =>
      obtain ⟨name, old⟩ := first
      unfold insert at h
      split at h
      · rcases List.mem_cons.mp h with rfl | h
        · exact .inl rfl
        · exact .inr (List.mem_cons_of_mem _ h)
      · rcases List.mem_cons.mp h with rfl | h
        · exact .inr List.mem_cons_self
        · exact (ih h).imp_right (List.mem_cons_of_mem _)

theorem JsonFields.keys_insert (fields : JsonFields) (key : String) (value : Json) :
    (fields.insert key value).map Prod.fst =
      if key ∈ fields.map Prod.fst then fields.map Prod.fst else fields.map Prod.fst ++ [key] := by
  induction fields with
  | nil => rfl
  | cons first rest ih =>
      obtain ⟨name, old⟩ := first
      by_cases hname : name = key
      · simp [insert, hname]
      · have hkey : key ≠ name := Ne.symm hname
        simp only [insert, beq_iff_eq, hname, if_false, List.map_cons, ih, List.mem_cons, hkey,
          false_or]
        split <;> rfl

theorem JsonFields.nodup_insert {fields : JsonFields} (h : (fields.map Prod.fst).Nodup)
    (key : String) (value : Json) : ((fields.insert key value).map Prod.fst).Nodup := by
  rw [keys_insert]
  split
  · exact h
  · next hnew =>
    rw [← List.concat_eq_append]
    exact h.concat hnew

namespace Json

/-- Every object in the value holds each of its keys once. -/
inductive DistinctKeys : Json → Prop
  | null : DistinctKeys .null
  | bool (value : Bool) : DistinctKeys (.bool value)
  | number (value : JsonNumber) : DistinctKeys (.number value)
  | string (value : String) : DistinctKeys (.string value)
  | array {items : List Json} : (∀ item ∈ items, DistinctKeys item) → DistinctKeys (.array items)
  | object {fields : JsonFields} : (fields.map Prod.fst).Nodup →
      (∀ field ∈ fields, DistinctKeys field.2) → DistinctKeys (.object fields)

attribute [simp] DistinctKeys.null DistinctKeys.bool DistinctKeys.number DistinctKeys.string

@[simp] theorem distinct_keys_array {items : List Json} :
    (Json.array items).DistinctKeys ↔ ∀ item ∈ items, item.DistinctKeys := by
  refine ⟨fun h => ?_, .array⟩
  cases h with
  | array hitems => exact hitems

@[simp] theorem distinct_keys_object {fields : JsonFields} : (Json.object fields).DistinctKeys ↔
    (fields.map Prod.fst).Nodup ∧ ∀ field ∈ fields, field.2.DistinctKeys := by
  refine ⟨fun h => ?_, fun h => .object h.1 h.2⟩
  cases h with
  | object hkeys hvalues => exact ⟨hkeys, hvalues⟩

mutual

theorem distinct_merge_keys : ∀ value : Json, (mergeKeys value).DistinctKeys
  | .null => .null
  | .bool value => .bool value
  | .number value => .number value
  | .string value => .string value
  | .array items => .array (distinct_merge_items items)
  | .object fields =>
      have h := distinct_merge_fields fields [] List.nodup_nil nofun
      .object h.1 h.2

theorem distinct_merge_items : ∀ items : List Json, ∀ item ∈ mergeItems items, item.DistinctKeys
  | [] => nofun
  | first :: rest =>
      List.forall_mem_cons.mpr ⟨distinct_merge_keys first, distinct_merge_items rest⟩

theorem distinct_merge_fields : ∀ fields merged : JsonFields,
    (merged.map Prod.fst).Nodup → (∀ field ∈ merged, field.2.DistinctKeys) →
      ((mergeFields fields merged).map Prod.fst).Nodup ∧
        ∀ field ∈ mergeFields fields merged, field.2.DistinctKeys
  | [], _, hkeys, hvalues => ⟨hkeys, hvalues⟩
  | (key, value) :: rest, merged, hkeys, hvalues => by
      refine distinct_merge_fields rest _ (JsonFields.nodup_insert hkeys key _)
        fun field hfield => ?_
      rcases JsonFields.mem_insert hfield with hnew | hold
      · exact hnew ▸ distinct_merge_keys value
      · exact hvalues field hold

end

/-- A value that is read from a text holds each key once. -/
theorem distinct_keys_of_read {text : String} {value : Json} (h : read? text = some value) :
    value.DistinctKeys := by
  obtain ⟨written, -, rfl⟩ := Option.map_eq_some_iff.mp h
  exact distinct_merge_keys written

end Json

end EntityGate
