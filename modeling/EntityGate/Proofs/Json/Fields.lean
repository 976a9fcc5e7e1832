import EntityGate.Json.Basic

/-!
# Reading fields back

What is found under a key after a field was inserted, after many were, and after one was removed.
-/

namespace EntityGate.JsonFields

@[simp] theorem get_nil (name : String) : get? [] name = none := rfl

theorem get_cons (field : String × Json) (rest : JsonFields) (name : String) :
    get? (field :: rest) name = if name = field.1 then some field.2 else get? rest name := by
  obtain ⟨key, value⟩ := field
  by_cases h : name = key
  · simp [get?, h]
  · simp [get?, List.lookup_cons, beq_eq_false_iff_ne.mpr h, h]

theorem get_insert (fields : JsonFields) (key : String) (value : Json) (name : String) :
    get? (insert fields key value) name = if name = key then some value else get? fields name := by
  induction fields with
  | nil => simp [insert, get_cons]
  | cons field rest ih =>
      obtain ⟨first, old⟩ := field
      by_cases hfirst : first = key
      · by_cases hname : name = key <;> simp [insert, get_cons, hfirst, hname]
      · by_cases hname : name = first
        · simp [insert, get_cons, hfirst, hname]
        · simp [insert, get_cons, hfirst, hname, ih]

/-- A field whose key is new goes to the end. -/
theorem insert_of_get_none {fields : JsonFields} {key : String} (value : Json)
    (h : get? fields key = none) : insert fields key value = fields ++ [(key, value)] := by
  induction fields with
  | nil => rfl
  | cons field rest ih =>
      obtain ⟨first, old⟩ := field
      rw [get_cons] at h
      have hfirst : key ≠ first := fun heq => by simp [heq] at h
      simp only [hfirst, if_false] at h
      simp [insert, Ne.symm hfirst, ih h]

theorem get_eq_none_iff {fields : JsonFields} {key : String} :
    get? fields key = none ↔ key ∉ fields.map Prod.fst := by
  induction fields with
  | nil => simp
  | cons field rest ih => by_cases h : key = field.1 <;> simp [get_cons, h, ih]

/-- Fields with different new keys are inserted one after the other at the end. -/
theorem foldl_insert_of_nodup (start : JsonFields) {fields : JsonFields}
    (hnodup : (fields.map Prod.fst).Nodup)
    (hnew : ∀ field ∈ fields, field.1 ∉ start.map Prod.fst) :
    fields.foldl (fun object field => insert object field.1 field.2) start = start ++ fields := by
  induction fields generalizing start with
  | nil => simp
  | cons field rest ih =>
      rw [List.map_cons, List.nodup_cons] at hnodup
      rw [List.foldl_cons,
        insert_of_get_none _ (get_eq_none_iff.mpr (hnew field List.mem_cons_self))]
      have hrest := ih (start ++ [field]) hnodup.2 fun other hother => by
        have hother' := hnew other (List.mem_cons_of_mem _ hother)
        have hne : other.1 ≠ field.1 := fun heq =>
          hnodup.1 (heq ▸ List.mem_map_of_mem hother)
        simpa [hne] using hother'
      simpa using hrest

/-- An object is made of fields with different keys as they stand. -/
theorem of_list_of_nodup {fields : JsonFields} (h : (fields.map Prod.fst).Nodup) :
    ofList fields = fields := by
  simpa [ofList] using foldl_insert_of_nodup [] h (by simp)

/-- Of many insertions the last one under a key decides, else what was there before. -/
theorem get_foldl_insert (fields : List (String × Json)) (start : JsonFields) (name : String) :
    get? (fields.foldl (fun object field => insert object field.1 field.2) start) name =
      (get? (ofList fields) name).or (get? start name) := by
  unfold ofList
  -- The start grows with every insertion, on both sides.
  induction fields generalizing start with
  | nil => simp
  | cons field rest ih =>
      simp only [List.foldl_cons]
      rw [ih, ih (insert [] field.1 field.2), get_insert, get_insert]
      cases get? (rest.foldl (fun object field => insert object field.1 field.2) []) name with
      | some value => rfl
      | none => by_cases hname : name = field.1 <;> simp [hname]

theorem get_of_list_cons (field : String × Json) (rest : List (String × Json)) (name : String) :
    get? (ofList (field :: rest)) name =
      (get? (ofList rest) name).or (if name = field.1 then some field.2 else none) := by
  have hlist : ofList (field :: rest) =
      rest.foldl (fun object field => insert object field.1 field.2)
        (insert [] field.1 field.2) := rfl
  rw [hlist, get_foldl_insert, get_insert, get_nil]

/-- An object made without a key has the other fields only. -/
theorem get_of_list_filter (key : String) (fields : List (String × Json)) (name : String) :
    get? (ofList (fields.filter fun field => field.1 != key)) name =
      if name = key then none else get? (ofList fields) name := by
  induction fields with
  | nil => simp [ofList]
  | cons field rest ih =>
      by_cases hfield : field.1 = key
      · simp only [List.filter_cons, hfield, bne_self_eq_false, Bool.false_eq_true, if_false, ih,
          get_of_list_cons]
        by_cases hname : name = key <;> simp [hname]
      · simp only [List.filter_cons, bne_iff_ne, ne_eq, hfield, not_false_eq_true, if_true, ih,
          get_of_list_cons]
        by_cases hname : name = key
        · simp [hname, Ne.symm hfield]
        · simp [hname]

/-- An object that gives each of some names its value. -/
theorem get_of_list_map (value : String → Json) (names : List String) (name : String) :
    get? (ofList (names.map fun each => (each, value each))) name =
      if name ∈ names then some (value name) else none := by
  induction names with
  | nil => simp [ofList]
  | cons first rest ih =>
      rw [List.map_cons, get_of_list_cons, ih]
      by_cases hname : name = first
      · subst hname
        by_cases hrest : name ∈ rest <;> simp [hrest]
      · by_cases hrest : name ∈ rest <;> simp [hrest, hname]

/-! ## Removing fields -/

theorem keys_replace_field {fields : JsonFields} {key : String} (moved : String × Json)
    (h : key ∈ fields.map Prod.fst) :
    (key :: (replaceField fields key moved).map Prod.fst).Perm
      (moved.1 :: fields.map Prod.fst) := by
  induction fields with
  | nil => simp at h
  | cons field rest ih =>
      by_cases hfield : field.1 = key
      · simpa [replaceField, hfield] using List.Perm.swap _ _ _
      · have hrest : key ∈ rest.map Prod.fst := by
          simpa [Ne.symm hfield] using h
        simp only [replaceField, beq_iff_eq, hfield, if_false, List.map_cons]
        calc (key :: field.1 :: (replaceField rest key moved).map Prod.fst).Perm
              (field.1 :: key :: (replaceField rest key moved).map Prod.fst) := .swap _ _ _
          List.Perm _ (field.1 :: moved.1 :: rest.map Prod.fst) := (ih hrest).cons _
          List.Perm _ (moved.1 :: field.1 :: rest.map Prod.fst) := .swap _ _ _

theorem replace_field_append {start : JsonFields} {key : String} (fields : JsonFields)
    (moved : String × Json) (h : key ∉ start.map Prod.fst) :
    replaceField (start ++ fields) key moved = start ++ replaceField fields key moved := by
  induction start with
  | nil => rfl
  | cons field rest ih =>
      simp only [List.map_cons, List.mem_cons, not_or] at h
      simp [replaceField, Ne.symm h.1, ih h.2]

/-- Removing one of the fields at the end leaves those before them in place. -/
theorem swap_remove_append {start fields : JsonFields} {key : String}
    (hstart : key ∉ start.map Prod.fst) (hkey : key ∈ fields.map Prod.fst) :
    ∃ rest, swapRemove (start ++ fields) key = start ++ rest ∧
      (key :: rest.map Prod.fst).Perm (fields.map Prod.fst) := by
  have hfields : fields ≠ [] := by
    rintro rfl
    simp at hkey
  obtain ⟨others, last, rfl⟩ : ∃ others last, fields = others ++ [last] :=
    ⟨_, _, (List.dropLast_concat_getLast hfields).symm⟩
  have hkeys : ((others ++ [last]).map Prod.fst).Perm (last.1 :: others.map Prod.fst) := by
    simp
  by_cases hlast : last.1 = key
  · refine ⟨others, ?_, hlast ▸ hkeys.symm⟩
    simp [swapRemove, ← List.append_assoc, hlast]
  · have hothers : key ∈ others.map Prod.fst := by
      simpa [Ne.symm hlast] using hkey
    refine ⟨replaceField others key last, ?_, (keys_replace_field last hothers).trans hkeys.symm⟩
    have hhas : has (start ++ (others ++ [last])) key = true := by
      obtain ⟨field, hfield, rfl⟩ := List.mem_map.mp hothers
      exact List.any_eq_true.mpr ⟨field, by simp [hfield], by simp⟩
    have hlast' : (start ++ (others ++ [last])).getLast? = some last := by
      simp [← List.append_assoc]
    have hothers' : (start ++ (others ++ [last])).dropLast = start ++ others := by
      simp [← List.append_assoc]
    simp only [swapRemove, hlast', hothers', beq_iff_eq, hlast, if_false, hhas, if_true]
    exact replace_field_append _ _ hstart

end EntityGate.JsonFields
