import EntityGate.Data.TextMap
import EntityGate.Proofs.Data.Entries
import Mathlib.Data.List.Induction
import Mathlib.Data.List.Nodup

/-!
# Sorted maps

Texts are in a strict total order, and a map that is made by insertions has its keys in that order,
each once. So the entries of such a map determine it, in whatever way they are inserted again: see
`TextMap.of_list_entries`. Entries whose keys are distinct are only put in order: see
`TextMap.of_list_perm`.
-/

namespace EntityGate

namespace TextMap

variable {α : Type}

/-- Keys in order are distinct. -/
theorem InOrder.nodup {entries : List (String × α)} (h : InOrder entries) :
    (entries.map Prod.fst).Nodup := by
  refine List.pairwise_map.mpr (h.imp fun hlt heq => ?_)
  rw [heq, Text.compare_texts_self] at hlt
  cases hlt

/-- Whether entries are in order lies in their keys alone. -/
theorem InOrder.of_keys {β : Type} {entries : List (String × α)} {others : List (String × β)}
    (h : InOrder entries) (hkeys : others.map Prod.fst = entries.map Prod.fst) :
    InOrder others := by
  have hpairwise : (others.map Prod.fst).Pairwise fun key later =>
      Text.compareTexts key later = .lt := hkeys ▸ List.pairwise_map.mpr h
  exact List.pairwise_map.mp hpairwise

/-- What is found under a key after an insertion, in order or not. -/
theorem lookup_insert_entry (entries : List (String × α)) (key other : String) (value : α) :
    (insertEntry key value entries).lookup other =
      if other = key then some value else entries.lookup other := by
  induction entries with
  | nil => exact lookup_cons_entry [] key other value
  | cons first rest ih =>
      obtain ⟨name, old⟩ := first
      unfold insertEntry
      split
      · exact lookup_cons_entry _ key other value
      · next heq =>
        obtain rfl := Text.eq_of_compare_texts heq
        rw [lookup_cons_entry, lookup_cons_entry]
        split
        · rfl
        · rfl
      · next hgt =>
        have hname : name ≠ key := fun heq => by
          rw [heq, Text.compare_texts_self] at hgt
          cases hgt
        rw [lookup_cons_entry, lookup_cons_entry, ih]
        split_ifs with hother hkey
        · exact (hname (hother.symm.trans hkey)).elim
        · rfl
        · rfl
        · rfl

theorem find_insert (map : TextMap α) (key other : String) (value : α) :
    (map.insert key value).find? other = if other = key then some value else map.find? other :=
  lookup_insert_entry map.entries key other value

theorem find_foldl_insert (entries : List (String × α)) (map : TextMap α) (key : String) :
    ((entries.foldl (fun map entry => map.insert entry.1 entry.2) map).find? key).isSome ↔
      (map.find? key).isSome ∨ key ∈ entries.map Prod.fst := by
  induction entries generalizing map with
  | nil => simp
  | cons entry rest ih =>
      rw [List.foldl_cons, ih, find_insert, List.map_cons, List.mem_cons]
      split_ifs with hkey
      · simp [hkey]
      · simp [hkey]

theorem mem_keys_iff {map : TextMap α} {key : String} :
    key ∈ map.keys ↔ (map.find? key).isSome :=
  lookup_is_some_iff.symm

/-- The keys of a map are those of the entries that it is made of. -/
theorem mem_keys_of_list {entries : List (String × α)} {key : String} :
    key ∈ (ofList entries).keys ↔ key ∈ entries.map Prod.fst := by
  rw [mem_keys_iff, ofList, find_foldl_insert]
  simp [empty, find?]

theorem of_list_concat (before : List (String × α)) (last : String × α) :
    ofList (before ++ [last]) = (ofList before).insert last.1 last.2 := by
  simp [ofList]

/-- What is found under a key is the last of the entries that have it. -/
theorem find_of_list (entries : List (String × α)) (key : String) :
    (ofList entries).find? key = entries.reverse.lookup key := by
  induction entries using List.reverseRecOn with
  | nil => rfl
  | append_singleton before last ih =>
      rw [of_list_concat, find_insert, ih, List.reverse_append, List.reverse_singleton,
        List.singleton_append, lookup_cons_entry before.reverse last.1 key last.2]

/-- A map has no entries but those that it is made of. -/
theorem mem_of_list {entries : List (String × α)} {entry : String × α}
    (h : entry ∈ (ofList entries).entries) : entry ∈ entries := by
  induction entries using List.reverseRecOn with
  | nil => cases h
  | append_singleton before last ih =>
      rw [of_list_concat] at h
      rcases mem_insert_entry h with rfl | h
      · exact List.mem_append_right _ List.mem_cons_self
      · exact List.mem_append_left _ (ih h)

theorem insert_entry_ne_nil {entries : List (String × α)} {key : String} {value : α} :
    insertEntry key value entries ≠ [] := by
  cases entries with
  | nil => exact List.cons_ne_nil _ _
  | cons first rest =>
      unfold insertEntry
      split
      · exact List.cons_ne_nil _ _
      · exact List.cons_ne_nil _ _
      · exact List.cons_ne_nil _ _

/-- Entries in order are determined by what is found under each key. -/
theorem InOrder.eq_of_lookup {entries others : List (String × α)} (h : InOrder entries)
    (hothers : InOrder others) (hlookup : ∀ key, entries.lookup key = others.lookup key) :
    entries = others := by
  have hmem (entry : String × α) : entry ∈ entries ↔ entry ∈ others := by
    obtain ⟨key, value⟩ := entry
    constructor
    · intro hentry
      exact mem_of_lookup ((hlookup key).symm.trans (lookup_of_mem h.nodup hentry))
    · intro hentry
      exact mem_of_lookup ((hlookup key).trans (lookup_of_mem hothers.nodup hentry))
  have hperm : entries.Perm others :=
    (List.perm_ext_iff_of_nodup (.of_map _ h.nodup) (.of_map _ hothers.nodup)).mpr hmem
  refine hperm.eq_of_pairwise (fun entry other _ _ hlt hgt => ?_) h hothers
  rw [← Text.compare_texts_swap, hlt] at hgt
  cases hgt

theorem eq_of_entries {map other : TextMap α} (h : map.entries = other.entries) : map = other := by
  obtain ⟨entries, hentries⟩ := map
  obtain ⟨others, hothers⟩ := other
  obtain rfl : entries = others := h
  rfl

/-- A map is determined by what is found under each key. -/
theorem eq_of_find {map other : TextMap α} (h : ∀ key, map.find? key = other.find? key) :
    map = other :=
  eq_of_entries (map.sorted.eq_of_lookup other.sorted h)

/-! ## Inserting entries again -/

/-- An entry whose key comes after all others goes to the end. -/
theorem insert_entry_last {entries : List (String × α)} {key : String} (value : α)
    (h : ∀ entry ∈ entries, Text.compareTexts entry.1 key = .lt) :
    insertEntry key value entries = entries ++ [(key, value)] := by
  induction entries with
  | nil => rfl
  | cons first rest ih =>
      have hfirst : Text.compareTexts key first.1 = .gt := by
        rw [← Text.compare_texts_swap, h first List.mem_cons_self]
        rfl
      have hrest := ih fun entry hentry => h entry (List.mem_cons_of_mem _ hentry)
      simp only [insertEntry, hfirst, hrest, List.cons_append]

theorem foldl_insert_in_order {before : TextMap α} {entries : List (String × α)}
    (h : InOrder (before.entries ++ entries)) :
    (entries.foldl (fun map entry => map.insert entry.1 entry.2) before).entries =
      before.entries ++ entries := by
  induction entries generalizing before with
  | nil => rw [List.append_nil, List.foldl_nil]
  | cons entry rest ih =>
      have hlast : (before.insert entry.1 entry.2).entries = before.entries ++ [entry] :=
        insert_entry_last entry.2 fun earlier hearlier =>
          (List.pairwise_append.mp h).2.2 earlier hearlier entry List.mem_cons_self
      rw [List.append_cons, ← hlast] at h ⊢
      exact ih h

/-- Entries in order are those of a map already. -/
theorem entries_of_list {entries : List (String × α)} (h : InOrder entries) :
    (ofList entries).entries = entries :=
  foldl_insert_in_order h

/-- A map is made of its entries. -/
theorem of_list_entries (map : TextMap α) : ofList map.entries = map :=
  eq_of_entries (entries_of_list map.sorted)

/-! ## Other values under the same keys -/

/-- The map with a function applied to all values. -/
def mapValues {β : Type} (f : α → β) (map : TextMap α) : TextMap β where
  entries := map.entries.map fun entry => (entry.1, f entry.2)
  sorted := map.sorted.of_keys (List.map_map ..)

@[simp] theorem map_values_id (map : TextMap α) : map.mapValues id = map :=
  eq_of_entries (List.map_id map.entries)

@[simp] theorem find_map_values {β : Type} (f : α → β) (map : TextMap α) (key : String) :
    (map.mapValues f).find? key = (map.find? key).map f :=
  lookup_map_values f map.entries key

theorem map_values_of_list {β : Type} (f : α → β) (entries : List (String × α)) :
    (ofList entries).mapValues f = ofList (entries.map fun entry => (entry.1, f entry.2)) := by
  refine eq_of_find fun key => ?_
  rw [find_map_values, find_of_list, find_of_list, ← List.map_reverse, lookup_map_values]

/-! ## Entries in another order -/

/-- An entry under a new key is one entry more. -/
theorem insert_entry_perm {entries : List (String × α)} {key : String} (value : α)
    (h : key ∉ entries.map Prod.fst) :
    (insertEntry key value entries).Perm ((key, value) :: entries) := by
  induction entries with
  | nil => exact .refl _
  | cons first rest ih =>
      obtain ⟨name, old⟩ := first
      rw [List.map_cons, List.mem_cons, not_or] at h
      unfold insertEntry
      split
      · exact .refl _
      · next heq => exact (h.1 (Text.eq_of_compare_texts heq)).elim
      · exact ((ih h.2).cons (name, old)).trans (.swap _ _ _)

theorem foldl_insert_perm {map : TextMap α} {entries : List (String × α)}
    (h : (map.keys ++ entries.map Prod.fst).Nodup) :
    (entries.foldl (fun map entry => map.insert entry.1 entry.2) map).entries.Perm
      (map.entries ++ entries) := by
  induction entries generalizing map with
  | nil => rw [List.append_nil, List.foldl_nil]
  | cons entry rest ih =>
      rw [List.map_cons] at h
      have hkey : entry.1 ∉ map.keys := fun hmem =>
        (List.nodup_append.mp h).2.2 entry.1 hmem entry.1 List.mem_cons_self rfl
      have hinsert := insert_entry_perm entry.2 hkey
      have hkeys : (map.insert entry.1 entry.2).keys.Perm (entry.1 :: map.keys) := hinsert.map _
      have hnodup : ((map.insert entry.1 entry.2).keys ++ rest.map Prod.fst).Nodup :=
        (hkeys.append_right _).nodup_iff.mpr (List.nodup_middle.mp h)
      exact (ih hnodup).trans ((hinsert.append_right rest).trans List.perm_middle.symm)

/-- Entries whose keys are distinct are put in order and nothing else. -/
theorem of_list_perm {entries : List (String × α)} (h : (entries.map Prod.fst).Nodup) :
    (ofList entries).entries.Perm entries := by
  have hempty : ((empty : TextMap α).keys ++ entries.map Prod.fst).Nodup := by
    simpa [empty, keys] using h
  exact foldl_insert_perm hempty

end TextMap

end EntityGate
