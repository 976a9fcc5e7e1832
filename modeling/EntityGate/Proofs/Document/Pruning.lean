import EntityGate.Document.Prune
import EntityGate.Proofs.Data.Entries
import EntityGate.Proofs.Json.Fields
import Mathlib.Data.List.Nodup
import Mathlib.Data.List.Perm.Basic

/-!
# What pruning keeps

Pruning removes fields one after the other and moves others into their places. Where the keys of an
object are distinct, it amounts to a filter up to order: see `drop_empty_fields_perm`. So a lookup
in a pruned object answers the pruned value, unless nothing is left of it: see `get_prune`.
-/

namespace EntityGate

namespace JsonFields

variable {fields others : JsonFields} {key : String}

theorem filter_key_eq_self (h : key ∉ fields.map Prod.fst) :
    fields.filter (fun field => field.1 != key) = fields := by
  refine List.filter_eq_self.mpr fun field hfield => bne_iff_ne.mpr fun heq => h ?_
  exact heq ▸ List.mem_map_of_mem hfield

/-- With distinct keys, a lookup finds what is there. -/
theorem get_eq_some_iff (h : (fields.map Prod.fst).Nodup) {value : Json} :
    get? fields key = some value ↔ (key, value) ∈ fields :=
  ⟨mem_of_lookup, lookup_of_mem h⟩

/-- With distinct keys, the order of the fields does not matter to a lookup. -/
theorem get_of_perm (hperm : fields.Perm others) (h : (fields.map Prod.fst).Nodup) :
    get? fields key = get? others key := by
  have hothers : (others.map Prod.fst).Nodup := (hperm.map Prod.fst).nodup_iff.mp h
  refine Option.ext fun value => ?_
  rw [get_eq_some_iff h, get_eq_some_iff hothers, hperm.mem_iff]

/-- A lookup among the fields that pass a test. -/
theorem get_filter (test : String × Json → Bool) (h : (fields.map Prod.fst).Nodup) :
    get? (fields.filter test) key = (get? fields key).filter fun value => test (key, value) := by
  have hfilter : ((fields.filter test).map Prod.fst).Nodup :=
    h.sublist (List.filter_sublist.map Prod.fst)
  refine Option.ext fun value => ?_
  rw [get_eq_some_iff hfilter, List.mem_filter, Option.filter_eq_some_iff, get_eq_some_iff h]

/-! ## Removing fields -/

theorem replace_field_perm (moved : String × Json) (h : (fields.map Prod.fst).Nodup)
    (hkey : key ∈ fields.map Prod.fst) :
    (replaceField fields key moved).Perm
      (moved :: fields.filter fun field => field.1 != key) := by
  induction fields with
  | nil => cases hkey
  | cons field rest ih =>
      rw [List.map_cons, List.nodup_cons] at h
      by_cases hfield : field.1 = key
      · subst hfield
        simp [replaceField, filter_key_eq_self h.1]
      · have hrest : key ∈ rest.map Prod.fst := by simpa [Ne.symm hfield] using hkey
        simp only [replaceField, beq_iff_eq, hfield, if_false, List.filter_cons, bne_iff_ne, ne_eq,
          not_false_eq_true, if_true]
        calc List.Perm (field :: replaceField rest key moved)
              (field :: moved :: rest.filter fun other => other.1 != key) := (ih h.2 hrest).cons _
          List.Perm _ (moved :: field :: rest.filter fun other => other.1 != key) := .swap _ _ _

/-- Removing a key leaves the fields of other keys, in some order. -/
theorem swap_remove_perm (h : (fields.map Prod.fst).Nodup) (key : String) :
    (swapRemove fields key).Perm (fields.filter fun field => field.1 != key) := by
  rcases List.eq_nil_or_concat fields with rfl | ⟨before, last, rfl⟩
  · exact .refl _
  · rw [List.concat_eq_append] at h ⊢
    rw [List.map_append, List.nodup_append] at h
    obtain ⟨hbefore, -, hlast⟩ := h
    simp only [swapRemove, List.getLast?_append, List.getLast?_singleton, Option.some_or,
      List.dropLast_concat, List.filter_append]
    by_cases hkey : last.1 = key
    · have hrest : key ∉ before.map Prod.fst := fun hmem =>
        hlast key hmem last.1 (by simp) hkey.symm
      simp [hkey, filter_key_eq_self hrest]
    · by_cases hmem : key ∈ before.map Prod.fst
      · have hhas : has (before ++ [last]) key = true := by
          obtain ⟨field, hfield, rfl⟩ := List.mem_map.mp hmem
          exact List.any_eq_true.mpr ⟨field, List.mem_append_left _ hfield, beq_self_eq_true _⟩
        simp only [beq_iff_eq, hkey, if_false, hhas, if_true]
        refine (replace_field_perm last hbefore hmem).trans ?_
        simpa [hkey] using (List.perm_append_singleton last _).symm
      · have hhas : ¬ has (before ++ [last]) key = true := by
          simp only [has, List.any_eq_true, beq_iff_eq, not_exists, not_and]
          rintro field hfield rfl
          rcases List.mem_append.mp hfield with hfield | hfield
          · exact hmem (List.mem_map_of_mem hfield)
          · exact hkey (List.mem_singleton.mp hfield ▸ rfl)
        simp [hkey, hhas, filter_key_eq_self hmem]

/-- Removing keys one after the other leaves the fields of the other keys. -/
theorem foldl_swap_remove_perm (h : (fields.map Prod.fst).Nodup) (keys : List String) :
    (keys.foldl swapRemove fields).Perm (fields.filter fun field => !keys.contains field.1) := by
  induction keys generalizing fields with
  | nil => simp
  | cons key rest ih =>
      have hremoved := swap_remove_perm h key
      have hnodup : ((swapRemove fields key).map Prod.fst).Nodup :=
        (hremoved.map Prod.fst).nodup_iff.mpr (h.sublist (List.filter_sublist.map Prod.fst))
      refine (ih hnodup).trans ((hremoved.filter _).trans (.of_eq ?_))
      rw [List.filter_filter]
      refine List.filter_congr fun field _ => ?_
      simp only [List.contains_cons, Bool.not_or, Bool.and_comm]
      rfl

end JsonFields

namespace Document

open JsonFields

variable {fields : JsonFields} {key : String}

/-- With distinct keys, exactly the fields that are to be dropped are missing. -/
theorem drop_empty_fields_perm (h : (fields.map Prod.fst).Nodup) :
    (dropEmptyFields fields).Perm (fields.filter fun field => !isDropped field) := by
  refine (foldl_swap_remove_perm h _).trans (.of_eq (List.filter_congr fun field hfield => ?_))
  rw [Bool.not_inj_iff, Bool.eq_iff_iff, List.contains_iff_mem]
  constructor
  · intro hmem
    obtain ⟨other, hother, hname⟩ := List.mem_map.mp hmem
    obtain ⟨hother, hdropped⟩ := List.mem_filter.mp hother
    exact List.inj_on_of_nodup_map h hother hfield hname ▸ hdropped
  · exact fun hdropped => List.mem_map_of_mem (List.mem_filter.mpr ⟨hfield, hdropped⟩)

theorem keys_prune_fields (fields : JsonFields) :
    (pruneFields fields).map Prod.fst = fields.map Prod.fst := by
  induction fields with
  | nil => rfl
  | cons field rest ih => rw [pruneFields, List.map_cons, List.map_cons, ih]

theorem get_prune_fields (fields : JsonFields) :
    get? (pruneFields fields) key =
      (get? fields key).map fun value => if keepsEmpty key then value else prune value := by
  induction fields with
  | nil => rfl
  | cons field rest ih =>
      rw [pruneFields, get_cons, get_cons, ih]
      by_cases hfield : key = field.1
      · simp [hfield]
      · simp [hfield]

/-- A lookup in a pruned object, whatever the key. -/
theorem get_prune_object (h : (fields.map Prod.fst).Nodup) :
    (prune (.object fields)).get? key =
      ((get? fields key).map fun value => if keepsEmpty key then value else prune value).filter
        fun value => !isDropped (key, value) := by
  have hnodup : ((pruneFields fields).map Prod.fst).Nodup := by rwa [keys_prune_fields]
  have hperm := drop_empty_fields_perm hnodup
  rw [prune]
  show get? (dropEmptyFields (pruneFields fields)) key = _
  rw [get_of_perm hperm ((hperm.map Prod.fst).nodup_iff.mpr
    (hnodup.sublist (List.filter_sublist.map Prod.fst))), get_filter _ hnodup, get_prune_fields]

/-- A lookup in a pruned object answers the pruned value, unless nothing is left of it. -/
theorem get_prune (h : (fields.map Prod.fst).Nodup) (hkey : keepsEmpty key = false) :
    (prune (.object fields)).get? key =
      ((get? fields key).map prune).filter fun value => !isEmptyValue value := by
  rw [get_prune_object h]
  simp only [isDropped, hkey, Bool.false_eq_true, if_false]

theorem get_prune_of_none (h : (fields.map Prod.fst).Nodup) (hnone : get? fields key = none) :
    (prune (.object fields)).get? key = none := by
  rw [get_prune_object h, hnone]
  rfl

/-- A value with something under a key is not empty. -/
theorem not_empty_of_get {value found : Json} (h : value.get? key = some found) :
    isEmptyValue value = false := by
  unfold isEmptyValue
  split
  · cases h
  · cases h
  · cases h
  · rfl

/-- Of an object with a text under a key, pruning leaves something. -/
theorem prune_not_empty (h : (fields.map Prod.fst).Nodup) (hkey : keepsEmpty key = false)
    {text : String} (htext : get? fields key = some (.string text)) :
    isEmptyValue (prune (.object fields)) = false := by
  have hfound : (prune (.object fields)).get? key = some (.string text) := by
    rw [get_prune h hkey, htext]
    rfl
  exact not_empty_of_get hfound

/-- Two lookups, one in what the other finds, do not notice whether an empty value is dropped in
between. -/
theorem get_get_prune (h : (fields.map Prod.fst).Nodup) (hkey : keepsEmpty key = false)
    (name : String) :
    ((prune (.object fields)).get? key).bind (fun value => value.get? name) =
      (get? fields key).bind fun value => (prune value).get? name := by
  rw [get_prune h hkey]
  cases get? fields key with
  | none => rfl
  | some value =>
      rw [Option.map_some, Option.filter_some]
      split
      · rfl
      · next hempty =>
        rw [Bool.not_eq_true, Bool.not_eq_false'] at hempty
        cases hfound : (prune value).get? name with
        | none => simp [hfound]
        | some found =>
            rw [not_empty_of_get hfound] at hempty
            cases hempty

end Document

end EntityGate
