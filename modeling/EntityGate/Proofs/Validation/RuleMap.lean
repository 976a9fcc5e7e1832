import EntityGate.Proofs.Data.Entries
import EntityGate.Proofs.Text.Blank
import EntityGate.Validation.RuleMap

/-!
# Rule maps

A rule map that is made by insertions and removals holds every field once. A removal then takes the
field away and keeps the rules of all others: see `get_remove`. Rules that were parted into tokens
once stay as they are, so that a rule map is made again of its entries: see `of_rules_entries`.
-/

namespace EntityGate

namespace Rules

/-- The rules are parted into tokens already. -/
def Normal (tokens : List String) : Prop := ∀ token ∈ tokens, splitToken token = [token]

theorem split_token_of_mem {text token : String} (h : token ∈ splitToken text) :
    splitToken token = [token] := by
  simp only [splitToken] at h
  split at h
  · next hpattern =>
    -- A pattern stays whole.
    obtain rfl := List.mem_singleton.mp h
    simp [splitToken, hpattern]
  · obtain ⟨hpart, hfilled⟩ := List.mem_filter.mp h
    obtain ⟨piece, hpiece, rfl⟩ := List.mem_map.mp hpart
    obtain ⟨chars, hchars, rfl⟩ := List.mem_map.mp hpiece
    have hbars : ∀ char ∈ (Text.trim (String.ofList chars)).toList, (char == '|') = false := by
      intro char hchar
      simp only [Text.trim, String.toList_ofList] at hchar
      exact Text.not_separator_of_mem_piece hchars char (Text.mem_of_mem_trim_chars hchar)
    have hwhole : Text.split (· == '|') (Text.trim (String.ofList chars)) =
        [Text.trim (String.ofList chars)] := by
      rw [Text.split, Text.split_chars_of_none hbars, List.map_singleton, String.ofList_toList]
    simp only [splitToken, Text.trim_trim, hwhole, List.map_singleton, List.filter_singleton,
      hfilled, cond_true, ite_self]

theorem normal_normalize (texts : List String) : Normal (normalize texts) := by
  intro token htoken
  obtain ⟨text, -, htoken⟩ := List.mem_flatMap.mp htoken
  exact split_token_of_mem htoken

/-- Tokens are not parted any more. -/
theorem normalize_of_normal {tokens : List String} (h : Normal tokens) :
    normalize tokens = tokens := by
  induction tokens with
  | nil => rfl
  | cons token rest ih =>
      have hrest := ih fun other hother => h other (List.mem_cons_of_mem _ hother)
      show splitToken token ++ normalize rest = token :: rest
      rw [h token List.mem_cons_self, hrest]
      rfl

end Rules

namespace RuleMap

variable {map : RuleMap} {field : String}

theorem contains_iff_mem_keys : map.contains field = true ↔ field ∈ map.keys := by
  rw [contains, get?, lookup_is_some_iff, keys]

/-! ## Insertion -/

theorem eq_of_entries {map other : RuleMap} (h : map.entries = other.entries) : map = other := by
  obtain ⟨entries, hentries⟩ := map
  obtain ⟨others, hothers⟩ := other
  obtain rfl : entries = others := h
  rfl

/-- What is found under a field after an insertion. -/
theorem get_insert (map : RuleMap) (field name : String) (rules : List String) :
    (map.insert field rules).get? name = if name = field then some rules else map.get? name := by
  show (insertEntry field rules map.entries).lookup name =
    if _ then _ else map.entries.lookup name
  induction map.entries with
  | nil => exact lookup_cons_entry [] field name rules
  | cons entry rest ih =>
      obtain ⟨other, old⟩ := entry
      unfold insertEntry
      by_cases hother : other = field
      · subst hother
        rw [if_pos (beq_self_eq_true other), lookup_cons_entry, lookup_cons_entry]
        split <;> rfl
      · rw [if_neg (by simpa using hother), lookup_cons_entry, lookup_cons_entry, ih]
        by_cases hname : name = other
        · simp [hname, hother]
        · simp [hname]

/-! ## Removal -/

/-- A removal leaves the fields of another name, in their order. -/
theorem entries_remove (map : RuleMap) (field : String) :
    (map.remove field).entries = map.entries.filter fun entry => entry.1 != field := by
  obtain ⟨entries, h⟩ := map
  show (entries.eraseP fun entry => entry.1 == field) = _
  induction entries with
  | nil => rfl
  | cons entry rest ih =>
      obtain ⟨hentry, hrest⟩ := List.nodup_cons.mp h
      by_cases hfield : entry.1 = field
      · have hothers : ∀ other ∈ rest, (other.1 != field) = true := fun other hother =>
          bne_iff_ne.mpr fun heq => hentry (List.mem_map.mpr ⟨other, hother, heq.trans hfield.symm⟩)
        rw [List.eraseP_cons_of_pos (by simpa using hfield),
          List.filter_cons_of_neg (by simpa using hfield), List.filter_eq_self.mpr hothers]
      · rw [List.eraseP_cons_of_neg (by simpa using hfield),
          List.filter_cons_of_pos (by simpa using hfield), ih hrest]

/-- A removal keeps the rules of every other field. -/
theorem get_remove (map : RuleMap) (field name : String) :
    (map.remove field).get? name = if name = field then none else map.get? name := by
  rw [get?, entries_remove, lookup_without, get?]

/-- Taking a field out answers its rules and removes it. -/
theorem take_eq (map : RuleMap) (field : String) :
    map.take field = (map.get? field, map.remove field) := by
  refine Prod.ext ?_ (eq_of_entries ?_)
  · rw [get?, lookup_eq_find_idx, take]
    cases map.entries.findIdx? fun entry => entry.1 == field with
    | none => rfl
    | some place => rfl
  · show (map.take field).2.entries = map.entries.eraseP fun entry => entry.1 == field
    rw [List.eraseP_eq_eraseIdx, take]
    cases map.entries.findIdx? fun entry => entry.1 == field with
    | none => rfl
    | some place => rfl

/-! ## Rules that are parted into tokens -/

/-- All rules of the map are parted into tokens. -/
def Normal (map : RuleMap) : Prop := ∀ entry ∈ map.entries, Rules.Normal entry.2

theorem normal_empty : empty.Normal := fun _ hentry => (List.not_mem_nil hentry).elim

theorem mem_insert_entry {rules : List String} {entries : List (String × List String)}
    {entry : String × List String} (h : entry ∈ insertEntry field rules entries) :
    entry = (field, rules) ∨ entry ∈ entries := by
  induction entries with
  | nil => exact .inl (List.mem_singleton.mp h)
  | cons first rest ih =>
      obtain ⟨name, old⟩ := first
      unfold insertEntry at h
      split at h
      · next hname =>
        rcases List.mem_cons.mp h with rfl | h
        · exact .inl (by rw [beq_iff_eq.mp hname])
        · exact .inr (List.mem_cons_of_mem _ h)
      · rcases List.mem_cons.mp h with rfl | h
        · exact .inr List.mem_cons_self
        · exact (ih h).imp_right (List.mem_cons_of_mem _)

theorem Normal.insert (h : map.Normal) (field : String) {rules : List String}
    (hrules : Rules.Normal rules) : (map.insert field rules).Normal := by
  intro entry hentry
  rcases mem_insert_entry hentry with rfl | hentry
  · exact hrules
  · exact h entry hentry

theorem Normal.remove (h : map.Normal) (field : String) : (map.remove field).Normal :=
  fun entry hentry => h entry (List.eraseP_subset hentry)

theorem normal_of_list {entries : List (String × List String)}
    (h : ∀ entry ∈ entries, Rules.Normal entry.2) : (ofList entries).Normal := by
  suffices ∀ start : RuleMap, start.Normal →
      (entries.foldl (fun map entry => map.insert entry.1 entry.2) start).Normal from
    this empty normal_empty
  induction entries with
  | nil => exact fun _ hstart => hstart
  | cons entry rest ih =>
      exact fun start hstart => ih (fun other hother => h other (List.mem_cons_of_mem _ hother)) _
        (hstart.insert entry.1 (h entry List.mem_cons_self))

/-- The map with all its rules parted into tokens. -/
def normalized (map : RuleMap) : RuleMap where
  entries := map.entries.map fun entry => (entry.1, Rules.normalize entry.2)
  nodup := by
    rw [List.map_map]
    exact map.nodup

@[simp] theorem keys_normalized (map : RuleMap) : map.normalized.keys = map.keys := by
  rw [keys, normalized, List.map_map]
  rfl

theorem normalized_get_d (map : Option RuleMap) :
    (map.map normalized).getD empty = (map.getD empty).normalized := by
  cases map <;> rfl

theorem normalized_of_normal (h : map.Normal) : map.normalized = map := by
  refine eq_of_entries ?_
  show map.entries.map _ = map.entries
  conv_rhs => rw [← List.map_id map.entries]
  refine List.map_congr_left fun entry hentry => ?_
  rw [Rules.normalize_of_normal (h entry hentry)]
  rfl

theorem normal_normalized (map : RuleMap) : map.normalized.Normal := by
  intro entry hentry
  obtain ⟨raw, -, rfl⟩ := List.mem_map.mp hentry
  exact Rules.normal_normalize raw.2

/-! ## Making a map again -/

theorem insert_entry_last {entries : List (String × List String)} {field : String}
    (rules : List String) (h : field ∉ entries.map Prod.fst) :
    insertEntry field rules entries = entries ++ [(field, rules)] := by
  induction entries with
  | nil => rfl
  | cons first rest ih =>
      rw [List.map_cons, List.mem_cons, not_or] at h
      have hfirst : (first.1 == field) = false := beq_eq_false_iff_ne.mpr (Ne.symm h.1)
      simp only [insertEntry, hfirst, ih h.2, Bool.false_eq_true, if_false, List.cons_append]

theorem foldl_insert_entries {before : RuleMap} {entries : List (String × List String)}
    (h : ((before.entries ++ entries).map Prod.fst).Nodup) :
    (entries.foldl (fun map entry => map.insert entry.1 entry.2) before).entries =
      before.entries ++ entries := by
  induction entries generalizing before with
  | nil => rw [List.append_nil, List.foldl_nil]
  | cons entry rest ih =>
      have hlast : (before.insert entry.1 entry.2).entries = before.entries ++ [entry] := by
        refine insert_entry_last entry.2 fun hmem => ?_
        rw [List.map_append, List.map_cons] at h
        exact (List.nodup_append.mp h).2.2 entry.1 hmem entry.1 List.mem_cons_self rfl
      rw [List.append_cons, ← hlast] at h ⊢
      exact ih h

/-- A map is made again of its fields and the texts of their rules, with the rules parted. -/
theorem of_rules_entries (map : RuleMap) :
    ofRules (map.entries.map fun entry => (entry.1, Rules.ofTexts entry.2)) = map.normalized := by
  refine eq_of_entries ?_
  rw [ofRules, List.map_map]
  exact foldl_insert_entries map.normalized.nodup

/-! ## The JSON form -/

/-- Rules that are written as a list of texts are parted once more when they are read. -/
theorem rules_of_strings (rules : List String) :
    rulesOfJson (Json.ofStrings rules) = .ok (Rules.normalize rules) := by
  show Except.ok (Rules.normalize ((rules.map Json.string).filterMap Json.text?)) = _
  rw [List.filterMap_map]
  simp [Function.comp_def, Json.text?]

/-- Fields that are written with their rules are inserted one after the other when they are read. -/
theorem of_fields_written (entries : List (String × List String)) (start : RuleMap) :
    ofFields (entries.map fun entry => (entry.1, Json.ofStrings entry.2)) start =
      .ok ((entries.map fun entry => (entry.1, Rules.normalize entry.2)).foldl
        (fun map entry => map.insert entry.1 entry.2) start) := by
  induction entries generalizing start with
  | nil => rfl
  | cons entry rest ih =>
      simp only [List.map_cons, ofFields, rules_of_strings, ih, List.foldl_cons]

/-- A map is read back from its JSON form, with its rules parted. -/
theorem of_json_to_json (map : RuleMap) : ofJson map.toJson = .ok map.normalized :=
  (of_fields_written map.entries empty).trans
    (congrArg Except.ok (eq_of_entries (foldl_insert_entries map.normalized.nodup)))

end RuleMap

end EntityGate
