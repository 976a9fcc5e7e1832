import EntityGate.Data.TextMap

/-!
# Lookups in entries

Entries under keys without those of one key answer for every other key as before: see
`lookup_without` for lists of entries and `TextMap.find_erase` for sorted maps. Items with distinct
names are found by them: see `find_name_eq_some_iff`.
-/

namespace EntityGate

variable {α : Type}

/-- An entry that a lookup finds is there. -/
theorem mem_of_lookup {entries : List (String × α)} {key : String} {value : α}
    (h : entries.lookup key = some value) : (key, value) ∈ entries := by
  obtain ⟨before, rest, rfl, -⟩ := List.lookup_eq_some_iff.mp h
  exact List.mem_append_right _ List.mem_cons_self

/-- A lookup finds something under the keys that are there. -/
theorem lookup_is_some_iff {entries : List (String × α)} {key : String} :
    (entries.lookup key).isSome ↔ key ∈ entries.map Prod.fst := by
  rw [List.mem_map, List.lookup_isSome_iff]
  simp only [beq_iff_eq, @eq_comm _ key]

/-- A first entry answers for its key. -/
theorem lookup_cons_entry (entries : List (String × α)) (key other : String) (value : α) :
    ((key, value) :: entries).lookup other =
      if other = key then some value else entries.lookup other := by
  by_cases hother : other = key
  · simp [hother]
  · simp [List.lookup_cons, hother, beq_eq_false_iff_ne.mpr hother]

/-- A lookup finds what stands at the first place of the key. -/
theorem lookup_eq_find_idx (entries : List (String × α)) (key : String) :
    entries.lookup key = (entries.findIdx? fun entry => entry.1 == key).bind fun place =>
      entries[place]?.map Prod.snd := by
  induction entries with
  | nil => rfl
  | cons entry rest ih =>
      obtain ⟨name, value⟩ := entry
      rw [lookup_cons_entry, List.findIdx?_cons, ih]
      by_cases hname : name = key
      · simp [hname]
      · cases hplace : rest.findIdx? fun entry => entry.1 == key with
        | none => simp [hname, Ne.symm hname]
        | some place => simp [hname, Ne.symm hname]

/-- Among entries under distinct keys each is found under its key. -/
theorem lookup_of_mem {entries : List (String × α)} (hkeys : (entries.map Prod.fst).Nodup)
    {entry : String × α} (hentry : entry ∈ entries) : entries.lookup entry.1 = some entry.2 := by
  induction entries with
  | nil => cases hentry
  | cons first rest ih =>
      obtain ⟨hfirst, hrest⟩ := List.nodup_cons.mp hkeys
      rw [lookup_cons_entry rest first.1 entry.1 first.2]
      rcases List.mem_cons.mp hentry with rfl | hentry
      · exact if_pos rfl
      · have hother : entry.1 ≠ first.1 := fun heq =>
          hfirst (heq ▸ List.mem_map_of_mem hentry)
        exact (if_neg hother).trans (ih hrest hentry)

/-- Entries under distinct keys are determined by the order of their keys and by what is found under
each. -/
theorem eq_of_keys_of_lookup {entries others : List (String × α)}
    (hnodup : (entries.map Prod.fst).Nodup) (hkeys : entries.map Prod.fst = others.map Prod.fst)
    (h : ∀ key, entries.lookup key = others.lookup key) : entries = others := by
  have hfound {list : List (String × α)} (hlist : (list.map Prod.fst).Nodup) :
      list.map (fun entry => (entry.1, some entry.2)) =
        (list.map Prod.fst).map fun key => (key, list.lookup key) := by
    rw [List.map_map]
    exact List.map_congr_left fun entry hentry =>
      congrArg (Prod.mk entry.1) (lookup_of_mem hlist hentry).symm
  have hsame : entries.map (fun entry => (entry.1, some entry.2)) =
      others.map fun entry => (entry.1, some entry.2) := by
    rw [hfound hnodup, hfound (hkeys ▸ hnodup), hkeys]
    exact List.map_congr_left fun key _ => congrArg (Prod.mk key) (h key)
  refine (List.map_inj_right fun entry other heq => ?_).mp hsame
  obtain ⟨hkey, hvalue⟩ := Prod.mk.inj heq
  exact Prod.ext hkey (Option.some.inj hvalue)

/-- A lookup reads the entries of its key only. -/
theorem lookup_filter_key (entries : List (String × α)) (key : String) :
    (entries.filter fun entry => entry.1 == key).lookup key = entries.lookup key := by
  induction entries with
  | nil => rfl
  | cons entry rest ih =>
      obtain ⟨name, value⟩ := entry
      by_cases hname : name = key
      · simp [hname]
      · simp [List.lookup_cons, hname, beq_eq_false_iff_ne.mpr (Ne.symm hname), ih]

/-- A lookup among entries whose values are written in another form. -/
theorem lookup_map_values {β : Type} (write : α → β) (entries : List (String × α)) (key : String) :
    (entries.map fun entry => (entry.1, write entry.2)).lookup key =
      (entries.lookup key).map write := by
  induction entries with
  | nil => rfl
  | cons entry rest ih =>
      rw [List.map_cons, lookup_cons_entry, ih, lookup_cons_entry rest entry.1 key entry.2]
      split
      · rfl
      · rfl

/-- A lookup among entries that are made from their keys. -/
theorem lookup_map_names (make : String → α) (names : List String) (key : String) :
    (names.map fun name => (name, make name)).lookup key =
      if key ∈ names then some (make key) else none := by
  induction names with
  | nil => rfl
  | cons name rest ih =>
      rw [List.map_cons, lookup_cons_entry, ih]
      by_cases hname : key = name
      · simp [hname]
      · simp [hname]

/-- Without the entries of a key, a lookup of that key finds nothing and any other finds what it
found before. -/
theorem lookup_without (entries : List (String × α)) (key other : String) :
    (entries.filter fun entry => entry.1 != key).lookup other =
      if other = key then none else entries.lookup other := by
  induction entries with
  | nil => simp
  | cons entry rest ih =>
      obtain ⟨name, value⟩ := entry
      by_cases hname : name = key
      · subst hname
        by_cases hother : other = name
        · simpa [hother] using ih
        · simpa [List.lookup_cons, beq_eq_false_iff_ne.mpr hother, hother] using ih
      · by_cases hother : other = name
        · subst hother
          simp [hname]
        · simpa [List.lookup_cons, hname, beq_eq_false_iff_ne.mpr hother] using ih

/-- Among items whose names are distinct, the item of a name is found. -/
theorem find_name_eq_some_iff {items : List α} {name : α → String}
    (h : (items.map name).Nodup) {wanted : String} {item : α} :
    (items.find? fun other => name other == wanted) = some item ↔
      item ∈ items ∧ name item = wanted := by
  constructor
  · intro hfound
    have hname : (name item == wanted) = true :=
      List.find?_some (p := fun other => name other == wanted) hfound
    exact ⟨List.mem_of_find?_eq_some hfound, beq_iff_eq.mp hname⟩
  · rintro ⟨hmem, rfl⟩
    induction items with
    | nil => cases hmem
    | cons first rest ih =>
        obtain ⟨hfirst, hrest⟩ := List.nodup_cons.mp h
        rcases List.mem_cons.mp hmem with rfl | hmem
        · exact List.find?_cons_of_pos (beq_self_eq_true (name item))
        · have hother : name first ≠ name item := fun heq =>
            hfirst (heq ▸ List.mem_map.mpr ⟨item, hmem, rfl⟩)
          have hskip : ¬ (name first == name item) = true := by simpa using hother
          exact (List.find?_cons_of_neg (p := fun other => name other == name item) hskip).trans
            (ih hrest hmem)

theorem TextMap.find_erase (map : TextMap α) (key other : String) :
    (map.erase key).find? other = if other = key then none else map.find? other :=
  lookup_without map.entries key other

end EntityGate
