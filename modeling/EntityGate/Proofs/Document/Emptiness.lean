import EntityGate.Proofs.Document.Pruning
import EntityGate.Proofs.Json.DistinctKeys

/-!
# Pruning removes what is empty and nothing else

What pruning leaves has nothing empty inside, see `pruned_prune`, and what has nothing empty inside
stays as it is, see `prune_of_pruned`. The relation `Remains` says what is left of a value without
saying in which order fields are removed: `remains_prune`. The pass that finds out on the way
whether anything is left agrees with it: `prune_empty_eq`.
-/

namespace EntityGate.Document

/-! ## What pruning is to do -/

/-- No null, empty array or empty object stands inside the value, the values of the keys that keep
empty values aside, and none of these keys has the value null. -/
inductive Pruned : Json → Prop
  | null : Pruned .null
  | bool (value : Bool) : Pruned (.bool value)
  | number (value : JsonNumber) : Pruned (.number value)
  | string (value : String) : Pruned (.string value)
  | array {items : List Json} : (∀ item ∈ items, isEmptyValue item = false) →
      (∀ item ∈ items, Pruned item) → Pruned (.array items)
  | object {fields : JsonFields} :
      (∀ field ∈ fields, keepsEmpty field.1 = true → field.2.isNull = false) →
      (∀ field ∈ fields, keepsEmpty field.1 = false → isEmptyValue field.2 = false) →
      (∀ field ∈ fields, keepsEmpty field.1 = false → Pruned field.2) → Pruned (.object fields)

mutual

/-- The second value is what remains of the first one: a scalar as it is, an array with its filled
items in order, and an object with its filled fields in some order. -/
inductive Remains : Json → Json → Prop
  | null : Remains .null .null
  | bool (value : Bool) : Remains (.bool value) (.bool value)
  | number (value : JsonNumber) : Remains (.number value) (.number value)
  | string (value : String) : Remains (.string value) (.string value)
  | array {items left : List Json} : ItemsRemain items left → Remains (.array items) (.array left)
  | object {fields left kept : JsonFields} : FieldsRemain fields left → kept.Perm left →
      Remains (.object fields) (.object kept)

/-- What remains of the items, in their order: nothing of an item of which only an empty value
remains. -/
inductive ItemsRemain : List Json → List Json → Prop
  | nil : ItemsRemain [] []
  | filled {item left : Json} {items others : List Json} : Remains item left →
      isEmptyValue left = false → ItemsRemain items others →
      ItemsRemain (item :: items) (left :: others)
  | emptied {item left : Json} {items others : List Json} : Remains item left →
      isEmptyValue left = true → ItemsRemain items others → ItemsRemain (item :: items) others

/-- What remains of the fields: under the keys that keep empty values all but null as it is, under
the others the values of which more than an empty value remains. -/
inductive FieldsRemain : JsonFields → JsonFields → Prop
  | nil : FieldsRemain [] []
  | untouched {key : String} {value : Json} {fields others : JsonFields} :
      keepsEmpty key = true → value.isNull = false → FieldsRemain fields others →
      FieldsRemain ((key, value) :: fields) ((key, value) :: others)
  | absent {key : String} {value : Json} {fields others : JsonFields} :
      keepsEmpty key = true → value.isNull = true → FieldsRemain fields others →
      FieldsRemain ((key, value) :: fields) others
  | filled {key : String} {value left : Json} {fields others : JsonFields} :
      keepsEmpty key = false → Remains value left → isEmptyValue left = false →
      FieldsRemain fields others → FieldsRemain ((key, value) :: fields) ((key, left) :: others)
  | emptied {key : String} {value left : Json} {fields others : JsonFields} :
      keepsEmpty key = false → Remains value left → isEmptyValue left = true →
      FieldsRemain fields others → FieldsRemain ((key, value) :: fields) others

end

/-! ## What it does -/

theorem prune_items_eq (items : List Json) :
    pruneItems items = (items.map prune).filter fun left => !isEmptyValue left := by
  induction items with
  | nil => rfl
  | cons item rest ih =>
      rw [pruneItems, ih, List.map_cons, List.filter_cons]
      cases isEmptyValue (prune item) <;> rfl

theorem prune_fields_eq (fields : JsonFields) :
    pruneFields fields = fields.map fun field =>
      (field.1, if keepsEmpty field.1 then field.2 else prune field.2) := by
  induction fields with
  | nil => rfl
  | cons field rest ih => rw [pruneFields, ih, List.map_cons]

/-- The fields of a pruned object are the pruned fields that are not dropped. -/
theorem mem_prune_object {fields : JsonFields} (h : (fields.map Prod.fst).Nodup)
    {field : String × Json} : field ∈ dropEmptyFields (pruneFields fields) ↔
      ∃ written ∈ fields,
        (written.1, if keepsEmpty written.1 then written.2 else prune written.2) = field ∧
          isDropped field = false := by
  rw [(drop_empty_fields_perm (by rwa [keys_prune_fields])).mem_iff, List.mem_filter,
    prune_fields_eq, List.mem_map, Bool.not_eq_true']
  constructor
  · rintro ⟨⟨written, hwritten, rfl⟩, hkept⟩
    exact ⟨written, hwritten, rfl, hkept⟩
  · rintro ⟨written, hwritten, rfl, hkept⟩
    exact ⟨⟨written, hwritten, rfl⟩, hkept⟩

/-- What pruning leaves has nothing empty inside. -/
theorem pruned_prune {value : Json} (h : value.DistinctKeys) : Pruned (prune value) := by
  induction h with
  | null => exact .null
  | bool value => exact .bool value
  | number value => exact .number value
  | string value => exact .string value
  | array _ ih =>
      rw [prune, prune_items_eq]
      refine .array (fun left hleft => ?_) fun left hleft => ?_
      · simpa using (List.mem_filter.mp hleft).2
      · obtain ⟨item, hitem, rfl⟩ := List.mem_map.mp (List.mem_filter.mp hleft).1
        exact ih item hitem
  | object hkeys _ ih =>
      rw [prune]
      refine .object (fun field hfield hkeeps => ?_) (fun field hfield hkeeps => ?_)
        fun field hfield hkeeps => ?_
      · obtain ⟨-, -, -, hkept⟩ := (mem_prune_object hkeys).mp hfield
        rwa [isDropped, if_pos hkeeps] at hkept
      · obtain ⟨-, -, -, hkept⟩ := (mem_prune_object hkeys).mp hfield
        rwa [isDropped, if_neg (by simp [hkeeps])] at hkept
      · obtain ⟨written, hwritten, rfl, -⟩ := (mem_prune_object hkeys).mp hfield
        have hvalue : (if keepsEmpty written.1 then written.2 else prune written.2) =
            prune written.2 := if_neg (by simpa using hkeeps)
        show Pruned (if keepsEmpty written.1 then written.2 else prune written.2)
        rw [hvalue]
        exact ih written hwritten

/-- Where nothing is to be dropped, nothing is. -/
theorem drop_empty_fields_eq_self {fields : JsonFields}
    (h : ∀ field ∈ fields, isDropped field = false) : dropEmptyFields fields = fields := by
  have hnone : fields.filter isDropped = [] :=
    List.filter_eq_nil_iff.mpr fun field hfield => by simp [h field hfield]
  rw [dropEmptyFields, hnone]
  rfl

/-- What has nothing empty inside stays as it is. -/
theorem prune_of_pruned {value : Json} (h : Pruned value) : prune value = value := by
  induction h with
  | null | bool | number | string => rfl
  | @array items hfilled _ ih =>
      have hitems : items.map prune = items := (List.map_congr_left ih).trans (List.map_id items)
      rw [prune, prune_items_eq, hitems, List.filter_eq_self.mpr fun item hitem => by
        simp [hfilled item hitem]]
  | @object fields hexempt hfilled _ ih =>
      have hfields : pruneFields fields = fields := by
        rw [prune_fields_eq]
        refine (List.map_congr_left fun field hfield => ?_).trans (List.map_id fields)
        cases hkeeps : keepsEmpty field.1 with
        | true => rfl
        | false => exact Prod.ext rfl (ih field hfield hkeeps)
      -- Without a hole no field moves, so that the order is kept too.
      rw [prune, hfields, drop_empty_fields_eq_self fun field hfield => ?_]
      unfold isDropped
      split
      · next hkeeps => exact hexempt field hfield hkeeps
      · next hkeeps => exact hfilled field hfield (Bool.not_eq_true _ ▸ hkeeps)

theorem items_remain_prune {items : List Json} (h : ∀ item ∈ items, Remains item (prune item)) :
    ItemsRemain items (pruneItems items) := by
  induction items with
  | nil => exact .nil
  | cons item rest ih =>
      obtain ⟨hitem, hrest⟩ := List.forall_mem_cons.mp h
      rw [pruneItems]
      cases hempty : isEmptyValue (prune item) with
      | true => exact .emptied hitem hempty (ih hrest)
      | false => exact .filled hitem hempty (ih hrest)

theorem fields_remain_prune {fields : JsonFields}
    (h : ∀ field ∈ fields, Remains field.2 (prune field.2)) :
    FieldsRemain fields ((pruneFields fields).filter fun field => !isDropped field) := by
  induction fields with
  | nil => exact .nil
  | cons field rest ih =>
      obtain ⟨key, value⟩ := field
      obtain ⟨hvalue, hrest⟩ := List.forall_mem_cons.mp h
      rw [pruneFields, List.filter_cons, isDropped]
      cases hkeeps : keepsEmpty key with
      | true =>
          cases hnull : value.isNull with
          | true => simpa [hnull] using FieldsRemain.absent hkeeps hnull (ih hrest)
          | false => simpa [hnull] using FieldsRemain.untouched hkeeps hnull (ih hrest)
      | false =>
          cases hempty : isEmptyValue (prune value) with
          | true => simpa [hempty] using FieldsRemain.emptied hkeeps hvalue hempty (ih hrest)
          | false => simpa [hempty] using FieldsRemain.filled hkeeps hvalue hempty (ih hrest)

/-- Pruning leaves what is to remain. -/
theorem remains_prune {value : Json} (h : value.DistinctKeys) : Remains value (prune value) := by
  induction h with
  | null => exact .null
  | bool value => exact .bool value
  | number value => exact .number value
  | string value => exact .string value
  | array _ ih => exact .array (items_remain_prune ih)
  | object hkeys _ ih =>
      exact .object (fields_remain_prune ih) (drop_empty_fields_perm (by rwa [keys_prune_fields]))

/-! ## In one pass -/

mutual

/-- The pass leaves what pruning leaves, and tells whether that is empty. -/
theorem prune_empty_eq : ∀ value, pruneEmpty value = (prune value, isEmptyValue (prune value))
  | .null | .bool _ | .number _ | .string _ => rfl
  | .array items => by
      rw [pruneEmpty, prune, prune_empty_items_eq items]
      cases pruneItems items <;> rfl
  | .object fields => by
      rw [pruneEmpty, prune, prune_empty_fields_eq fields]
      show (Json.object (dropEmptyFields (pruneFields fields)),
        (dropEmptyFields (pruneFields fields)).isEmpty) = _
      cases dropEmptyFields (pruneFields fields) <;> rfl

theorem prune_empty_items_eq : ∀ items, pruneEmptyItems items = pruneItems items
  | [] => rfl
  | item :: rest => by
      rw [pruneEmptyItems, pruneItems, prune_empty_eq item, prune_empty_items_eq rest]

theorem prune_empty_fields_eq : ∀ fields, pruneEmptyFields fields =
    (pruneFields fields, ((pruneFields fields).filter isDropped).map Prod.fst)
  | [] => rfl
  | (key, value) :: rest => by
      rw [pruneEmptyFields, pruneFields, prune_empty_fields_eq rest, prune_empty_eq value,
        List.filter_cons, isDropped]
      cases keepsEmpty key with
      | true => cases hnull : value.isNull <;> simp [hnull]
      | false => cases hempty : isEmptyValue (prune value) <;> simp [hempty]

end

/-- Of a value whose objects hold each key once, pruning leaves what is filled and nothing that is
empty, tells whether that is empty itself, and leaves it as it is when it is repeated. -/
theorem pruning_removes_empty_only (value : Json) (h : value.DistinctKeys) :
    Pruned (pruneEmpty value).1 ∧ Remains value (pruneEmpty value).1 ∧
      (pruneEmpty value).2 = isEmptyValue (pruneEmpty value).1 ∧
      pruneEmpty (pruneEmpty value).1 = pruneEmpty value ∧
      prune value = (pruneEmpty value).1 := by
  have hagain : prune (prune value) = prune value := prune_of_pruned (pruned_prune h)
  rw [prune_empty_eq value]
  refine ⟨pruned_prune h, remains_prune h, rfl, ?_, rfl⟩
  rw [prune_empty_eq (prune value), hagain]

/-- A document with empty parts at several depths, a requirement without scopes, scopes that are
null, and an array of which some items are empty. -/
def unprunedDocument : Json :=
  .object [
    ("a", .array []),
    ("security", .array [.object [("bearerAuth", .array []), ("note", .null)]]),
    ("scopes", .null),
    ("b", .object [("c", .null), ("d", .array [.object []])]),
    ("e", .array [.null, .string "x", .array [.array []], Json.ofInt 0,
      .object [("f", .string "")]])]

/-- The last field takes the place of the first one, the requirement stays as it is, and three items
are left in their order. -/
theorem pruning_removes_empty_only_of_nested :
    unprunedDocument.DistinctKeys ∧ Pruned (prune unprunedDocument) ∧
      pruneEmpty unprunedDocument =
        (.object [
          ("e", .array [.string "x", Json.ofInt 0, .object [("f", .string "")]]),
          ("security", .array [.object [("bearerAuth", .array []), ("note", .null)]])], false) := by
  have hdistinct : unprunedDocument.DistinctKeys := by
    simp [unprunedDocument, Json.ofInt]
  obtain ⟨hpruned, -, -, -, hprune⟩ := pruning_removes_empty_only unprunedDocument hdistinct
  exact ⟨hdistinct, hprune ▸ hpruned, by rfl⟩

end EntityGate.Document
