import EntityGate.Proofs.Data.Entries
import EntityGate.Proofs.Request.Parameters
import Mathlib.Data.List.Induction
import Mathlib.Data.List.Nodup

/-!
# What filter parameters come to

Only the parameters that are taken for filters count: see `asked` and `collected_eq`. Fields stand
in the order in which they are first asked for, and so do the operator tokens of each field; the
value of a field and a token follows from the parameters that ask for these two: see `valueOf` and
`value_at_of_parameters`.
-/

namespace EntityGate

/-! ## First occurrences -/

section FirstOccurrences

variable {α β : Type} [BEq α] [LawfulBEq α] [BEq β] [LawfulBEq β]

theorem erase_dups_concat (items : List α) (item : α) [Decidable (item ∈ items)] :
    (items ++ [item]).eraseDups =
      if item ∈ items then items.eraseDups else items.eraseDups ++ [item] := by
  rw [List.eraseDups_append]
  split
  · next h => simp [List.removeAll, h]
  · next h => simp [List.removeAll, h, List.eraseDups_cons]

theorem nodup_erase_dups (items : List α) : items.eraseDups.Nodup := by
  classical
  induction items using List.reverseRecOn with
  | nil => exact List.nodup_nil
  | append_singleton before last ih =>
      rw [erase_dups_concat]
      split
      · exact ih
      · next h =>
        rw [← List.concat_eq_append]
        exact ih.concat (mt List.mem_eraseDups.mp h)

/-- Repetitions do not matter to the first occurrences of what the items are mapped to. -/
theorem erase_dups_map_erase_dups (f : α → β) (items : List α) :
    (items.eraseDups.map f).eraseDups = (items.map f).eraseDups := by
  classical
  induction items using List.reverseRecOn with
  | nil => rfl
  | append_singleton before last ih =>
      rw [erase_dups_concat, List.map_append, List.map_singleton, erase_dups_concat]
      split
      · next h => rw [ih, if_pos (List.mem_map_of_mem h)]
      · rw [List.map_append, List.map_singleton, erase_dups_concat, ih]
        simp only [List.mem_map, List.mem_eraseDups]

/-- Among the first occurrences of pairs, the second parts that go with a first part are the first
occurrences of such parts. -/
theorem seconds_of_erase_dups (pairs : List (α × β)) (first : α) :
    (pairs.eraseDups.filter fun pair => pair.1 == first).map Prod.snd =
      ((pairs.filter fun pair => pair.1 == first).map Prod.snd).eraseDups := by
  classical
  induction pairs using List.reverseRecOn with
  | nil => rfl
  | append_singleton before last ih =>
      obtain ⟨key, second⟩ := last
      have hnew : [(key, second)].filter (fun pair => pair.1 == first) =
          if key = first then [(key, second)] else [] := by
        by_cases hfirst : key = first <;> simp [hfirst]
      rw [erase_dups_concat, List.filter_append, hnew]
      by_cases hfirst : key = first
      · have hmem : second ∈ (before.filter fun pair => pair.1 == first).map Prod.snd ↔
            (key, second) ∈ before := by simp [hfirst]
        rw [if_pos hfirst, List.map_append, List.map_singleton, erase_dups_concat, ← ih]
        by_cases hseen : (key, second) ∈ before
        · rw [if_pos hseen, if_pos (hmem.mpr hseen)]
        · rw [if_neg hseen, if_neg (mt hmem.mp hseen), List.filter_append, hnew, if_pos hfirst,
            List.map_append, List.map_singleton]
      · rw [if_neg hfirst, List.append_nil, ← ih]
        split
        · rfl
        · rw [List.filter_append, hnew, if_neg hfirst, List.append_nil]

end FirstOccurrences

namespace Request

/-! ## Asking -/

/-- The filters that parameters ask for, in their order, with the texts given for them. -/
def asked (parameters : List (String × String)) : List (FilterKey × String) :=
  parameters.filterMap fun parameter =>
    match parameterKey parameter.1 with
    | .filter key => some (key, parameter.2)
    | .malformedFilter | .plain => none

/-- What is collected for filters that are asked for one after the other. -/
def collectAll (asks : List (FilterKey × String)) : List CollectedFilter :=
  asks.foldl (fun collected ask => collect ask.1 (.string ask.2) collected) []

/-- Only the filters that parameters ask for are collected. -/
theorem collected_eq (parameters : List (String × String)) :
    collected parameters = collectAll (asked parameters) := by
  have hfold (state : Request × List CollectedFilter) :
      (parameters.foldl withParameter state).2 =
        (asked parameters).foldl (fun collected ask => collect ask.1 (.string ask.2) collected)
          state.2 := by
    induction parameters generalizing state with
    | nil => rfl
    | cons parameter rest ih =>
        obtain ⟨request, collected⟩ := state
        rw [List.foldl_cons, ih, asked, asked, List.filterMap_cons]
        cases hkey : parameterKey parameter.1 <;> simp [withParameter, hkey]
  exact hfold ({}, [])

theorem collect_all_concat (asks : List (FilterKey × String)) (ask : FilterKey × String) :
    collectAll (asks ++ [ask]) = collect ask.1 (.string ask.2) (collectAll asks) := by
  simp [collectAll]

/-- The field and the operator token of a filter that is asked for. -/
def pairOf (ask : FilterKey × String) : String × String := (ask.1.field, ask.1.token)

/-- Values are collected once for each field and operator token, in the order in which these are
first asked for. -/
theorem collected_keys_eq (asks : List (FilterKey × String)) :
    collectedKeys (collectAll asks) = (asks.map pairOf).eraseDups := by
  induction asks using List.reverseRecOn with
  | nil => rfl
  | append_singleton before last ih =>
      rw [collect_all_concat, collected_keys_collect, ih, List.map_append, List.map_singleton,
        erase_dups_concat]
      show (if pairOf last ∈ (before.map pairOf).eraseDups then _ else _ ++ [pairOf last]) = _
      by_cases hseen : pairOf last ∈ before.map pairOf
      · rw [if_pos hseen, if_pos (List.mem_eraseDups.mpr hseen)]
      · rw [if_neg hseen, if_neg (mt List.mem_eraseDups.mp hseen)]

/-! ## Values -/

/-- The texts that count for filters that are asked for one after the other, and whether they are a
list: a list parameter adds its text to those before it, any other one takes their place. -/
def gather (asks : List (FilterKey × String)) : List Json × Bool :=
  asks.foldl (fun (state : List Json × Bool) ask =>
    if ask.1.isList then (state.1 ++ [.string ask.2], true) else ([.string ask.2], state.2))
    ([], false)

/-- The value of filters that are asked for one after the other. -/
def valueOf (asks : List (FilterKey × String)) : Json :=
  if (gather asks).2 then .array (gather asks).1 else (gather asks).1.getLastD .null

theorem gather_concat (asks : List (FilterKey × String)) (ask : FilterKey × String) :
    gather (asks ++ [ask]) =
      if ask.1.isList then ((gather asks).1 ++ [.string ask.2], true)
      else ([.string ask.2], (gather asks).2) := by
  simp [gather]

/-- The value is a list if one of the filters is asked for as one. -/
theorem gather_is_list (asks : List (FilterKey × String)) :
    (gather asks).2 = asks.any fun ask => ask.1.isList := by
  induction asks using List.reverseRecOn with
  | nil => rfl
  | append_singleton before last ih =>
      rw [gather_concat, List.any_append, ← ih]
      cases hlist : last.1.isList <;> simp [hlist]

/-- Nothing but texts is gathered. -/
theorem gather_strings (asks : List (FilterKey × String)) :
    ∀ value ∈ (gather asks).1, ∃ text, value = .string text := by
  induction asks using List.reverseRecOn with
  | nil => exact nofun
  | append_singleton before last ih =>
      rw [gather_concat]
      split
      · exact List.forall_mem_append.mpr ⟨ih, List.forall_mem_singleton.mpr ⟨_, rfl⟩⟩
      · exact List.forall_mem_singleton.mpr ⟨_, rfl⟩

theorem gather_lists {asks : List (FilterKey × String)} (h : ∀ ask ∈ asks, ask.1.isList = true) :
    (gather asks).1 = asks.map fun ask => .string ask.2 := by
  induction asks using List.reverseRecOn with
  | nil => rfl
  | append_singleton before last ih =>
      have hlast : last.1.isList = true := h last (by simp)
      rw [gather_concat, hlast, if_pos rfl, ih fun ask hask => h ask (List.mem_append_left _ hask),
        List.map_append, List.map_singleton]

/-- Filters that are asked for as a list have all texts in order. -/
theorem value_of_lists {asks : List (FilterKey × String)} (hfilled : asks ≠ [])
    (h : ∀ ask ∈ asks, ask.1.isList = true) :
    valueOf asks = .array (asks.map fun ask => .string ask.2) := by
  obtain ⟨first, hfirst⟩ := List.exists_mem_of_ne_nil asks hfilled
  have hlist : (gather asks).2 = true := by
    rw [gather_is_list]
    exact List.any_eq_true.mpr ⟨first, hfirst, h first hfirst⟩
  rw [valueOf, hlist, if_pos rfl, gather_lists h]

/-- Of filters that are not asked for as a list the last one counts. -/
theorem value_of_last {asks : List (FilterKey × String)} {last : FilterKey × String}
    (h : ∀ ask ∈ asks ++ [last], ask.1.isList = false) :
    valueOf (asks ++ [last]) = .string last.2 := by
  have hlist : (gather (asks ++ [last])).2 = false := by
    rw [gather_is_list]
    exact List.any_eq_false.mpr fun ask hask => by simp [h ask hask]
  have hvalues : (gather (asks ++ [last])).1 = [.string last.2] := by
    rw [gather_concat, h last (by simp)]
    rfl
  rw [valueOf, hlist, hvalues]
  rfl

/-- The filters that are asked for on a field with an operator token. -/
def asksFor (asks : List (FilterKey × String)) (pair : String × String) :
    List (FilterKey × String) :=
  asks.filter fun ask => pairOf ask == pair

theorem mem_asks_for {parameters : List (String × String)} {field token : String}
    {ask : FilterKey × String} : ask ∈ asksFor (asked parameters) (field, token) ↔
      ∃ parameter ∈ parameters, parameterKey parameter.1 = .filter ⟨field, token, ask.1.isList⟩ ∧
        ask = (⟨field, token, ask.1.isList⟩, parameter.2) := by
  rw [asksFor, List.mem_filter, asked, List.mem_filterMap]
  constructor
  · rintro ⟨⟨parameter, hparameter, htaken⟩, hpair⟩
    obtain ⟨rfl, rfl⟩ := Prod.mk.inj (beq_iff_eq.mp hpair)
    cases hkey : parameterKey parameter.1 with
    | filter key =>
        rw [hkey] at htaken
        cases htaken
        exact ⟨parameter, hparameter, hkey, rfl⟩
    | malformedFilter | plain =>
        rw [hkey] at htaken
        cases htaken
  · rintro ⟨parameter, hparameter, hkey, heq⟩
    rw [heq]
    exact ⟨⟨parameter, hparameter, by rw [hkey]⟩, beq_self_eq_true _⟩

/-- A parameter that is taken for a filter asks for its field and its token. -/
theorem asks_iff_of_filter {parameter : String × String} {key : FilterKey}
    (hkey : parameterKey parameter.1 = .filter key) {field token : String} :
    Asks parameter field token ↔ pairOf (key, parameter.2) = (field, token) := by
  constructor
  · rintro ⟨isList, h⟩
    cases hkey.symm.trans h
    rfl
  · intro h
    obtain ⟨rfl, rfl⟩ := Prod.mk.inj h
    exact ⟨key.isList, hkey⟩

/-- The filters that are asked for on a field with a token come from the parameters that ask for
these two. -/
theorem asks_for_asked (parameters : List (String × String)) (field token : String) :
    asksFor (asked parameters) (field, token) =
      asked (parameters.filter fun parameter => Asks parameter field token) := by
  unfold asksFor asked
  rw [List.filter_filterMap, List.filterMap_filter]
  refine List.filterMap_congr fun parameter _ => ?_
  cases hkey : parameterKey parameter.1 with
  | malformedFilter | plain => simp
  | filter key =>
      rw [Option.filter_some]
      simp only [asks_iff_of_filter hkey, decide_eq_true_eq, beq_iff_eq]

/-- The texts that are given for a field and a token are those of the parameters that ask for
them. -/
theorem texts_asked_for (parameters : List (String × String)) (field token : String) :
    (asksFor (asked parameters) (field, token)).map Prod.snd =
      (parameters.filter fun parameter => Asks parameter field token).map Prod.snd := by
  rw [asks_for_asked, asked, List.map_filterMap, ← List.filterMap_eq_map]
  refine List.filterMap_congr fun parameter hparameter => ?_
  obtain ⟨isList, hkey⟩ := of_decide_eq_true (List.mem_filter.mp hparameter).2
  rw [hkey]
  rfl

theorem asks_for_concat (asks : List (FilterKey × String)) (ask : FilterKey × String)
    (pair : String × String) : asksFor (asks ++ [ask]) pair =
      if pairOf ask = pair then asksFor asks pair ++ [ask] else asksFor asks pair := by
  rw [asksFor, List.filter_append]
  by_cases h : pairOf ask = pair
  · simp [asksFor, h]
  · simp [asksFor, h]

/-- What a value is collected into: an entry of another field or token is left alone, one of this
field and token is changed, and if there is none, a new one is made. -/
theorem mem_collect {key : FilterKey} {value : Json} {list : List CollectedFilter}
    (hnodup : (collectedKeys list).Nodup) {entry : CollectedFilter}
    (h : entry ∈ collect key value list) :
    (entry ∈ list ∧ (entry.field, entry.token) ≠ (key.field, key.token)) ∨
    (∃ old ∈ list, (old.field, old.token) = (key.field, key.token) ∧
      entry = if key.isList then { old with values := old.values ++ [value], isList := true }
        else { old with values := [value] }) ∨
    ((key.field, key.token) ∉ collectedKeys list ∧
      entry = ⟨key.field, key.token, [value], key.isList⟩) := by
  induction list with
  | nil => exact .inr (.inr ⟨List.not_mem_nil, List.mem_singleton.mp h⟩)
  | cons first rest ih =>
      obtain ⟨hfirst, hrest⟩ := List.nodup_cons.mp hnodup
      unfold collect at h
      split at h
      · next hsame =>
        have hpair : (first.field, first.token) = (key.field, key.token) := by simpa using hsame
        rcases List.mem_cons.mp h with rfl | h
        · exact .inr (.inl ⟨first, List.mem_cons_self, hpair, rfl⟩)
        · refine .inl ⟨List.mem_cons_of_mem _ h, fun heq => hfirst ?_⟩
          exact List.mem_map.mpr ⟨entry, h, heq.trans hpair.symm⟩
      · next hother =>
        have hpair : (first.field, first.token) ≠ (key.field, key.token) := by simpa using hother
        rcases List.mem_cons.mp h with rfl | h
        · exact .inl ⟨List.mem_cons_self, hpair⟩
        · rcases ih hrest h with ⟨hmem, hne⟩ | ⟨old, hold, hkey, hentry⟩ | ⟨hlacks, hentry⟩
          · exact .inl ⟨List.mem_cons_of_mem _ hmem, hne⟩
          · exact .inr (.inl ⟨old, List.mem_cons_of_mem _ hold, hkey, hentry⟩)
          · exact .inr (.inr ⟨fun hmem => (List.mem_cons.mp hmem).elim (fun heq => hpair heq.symm)
              hlacks, hentry⟩)

/-- What is collected for a field and a token comes from the filters that are asked for with these
two. -/
theorem collected_gather {asks : List (FilterKey × String)} {entry : CollectedFilter}
    (h : entry ∈ collectAll asks) :
    (entry.values, entry.isList) = gather (asksFor asks (entry.field, entry.token)) := by
  induction asks using List.reverseRecOn generalizing entry with
  | nil => cases h
  | append_singleton before last ih =>
      have hnodup : (collectedKeys (collectAll before)).Nodup := by
        rw [collected_keys_eq]
        exact nodup_erase_dups _
      rw [collect_all_concat] at h
      rw [asks_for_concat]
      rcases mem_collect hnodup h with ⟨hmem, hne⟩ | ⟨old, hold, hkey, rfl⟩ | ⟨hlacks, rfl⟩
      -- The last filter is for another field or token, and nothing changes for the entry.
      · have hother : pairOf last ≠ (entry.field, entry.token) := Ne.symm hne
        rw [if_neg hother, ih hmem]
      -- It changes an entry that stands for what was asked before.
      · have hpair : pairOf last = (old.field, old.token) := hkey.symm
        cases hlist : last.1.isList with
        | true =>
            show (old.values ++ [.string last.2], true) =
              gather (if pairOf last = (old.field, old.token) then
                asksFor before (old.field, old.token) ++ [last] else _)
            rw [if_pos hpair, gather_concat, hlist, if_pos rfl, ← ih hold]
        | false =>
            show ([.string last.2], old.isList) =
              gather (if pairOf last = (old.field, old.token) then
                asksFor before (old.field, old.token) ++ [last] else _)
            rw [if_pos hpair, gather_concat, hlist, ← ih hold]
            rfl
      -- It is the first one for its field and token.
      · have hnone : asksFor before (pairOf last) = [] := by
          rw [collected_keys_eq, List.mem_eraseDups] at hlacks
          refine List.filter_eq_nil_iff.mpr fun ask hask hsame => hlacks ?_
          exact List.mem_map.mpr ⟨ask, hask, beq_iff_eq.mp hsame⟩
        show ([.string last.2], last.1.isList) =
          gather (if pairOf last = pairOf last then asksFor before (pairOf last) ++ [last] else _)
        rw [if_pos rfl, hnone, List.nil_append]
        cases hlist : last.1.isList <;> simp [gather, hlist]

theorem collected_value {asks : List (FilterKey × String)} {entry : CollectedFilter}
    (h : entry ∈ collectAll asks) :
    entry.value = valueOf (asksFor asks (entry.field, entry.token)) := by
  rw [CollectedFilter.value, valueOf, ← collected_gather h]

/-! ## Filters -/

/-- Pushing a filter onto fields whose operators are given by a function. -/
theorem push_entry_map (operators : String → List (String × Json)) (field : String)
    (operator : String × Json) {fields : List String} (h : fields.Nodup) :
    RawFilters.pushEntry field operator (fields.map fun name => (name, operators name)) =
      if field ∈ fields then
        fields.map fun name =>
          (name, if name = field then operators name ++ [operator] else operators name)
      else (fields.map fun name => (name, operators name)) ++ [(field, [operator])] := by
  induction fields with
  | nil => rfl
  | cons first rest ih =>
      obtain ⟨hfirst, hrest⟩ := List.nodup_cons.mp h
      rw [List.map_cons, RawFilters.pushEntry]
      by_cases hname : first = field
      · subst hname
        have hothers : rest.map (fun name => (name, operators name)) = rest.map fun name =>
            (name, if name = first then operators name ++ [operator] else operators name) :=
          List.map_congr_left fun name hname => by
            have hother : name ≠ first := fun heq => hfirst (heq ▸ hname)
            rw [if_neg hother]
        simp [hothers]
      · have hmem : field ∈ first :: rest ↔ field ∈ rest := by simp [Ne.symm hname]
        rw [if_neg (by simpa using hname), ih hrest]
        simp only [hmem]
        split
        · simp [hname]
        · rfl

/-- The operators that were collected for a field, with their values. -/
def operatorsOf (list : List CollectedFilter) (field : String) : List (String × Json) :=
  (list.filter fun entry => entry.field == field).map fun entry => (entry.token, entry.value)

theorem operators_of_concat (list : List CollectedFilter) (last : CollectedFilter)
    (field : String) : operatorsOf (list ++ [last]) field =
      if field = last.field then operatorsOf list field ++ [(last.token, last.value)]
      else operatorsOf list field := by
  rw [operatorsOf, List.filter_append]
  by_cases h : last.field = field
  · simp [operatorsOf, h]
  · simp [operatorsOf, h, Ne.symm h]

/-- The filters that what was collected is pushed to: the fields in the order in which they come
first, each with its operators in their order. -/
theorem pushed_entries (list : List CollectedFilter) :
    (list.foldl (fun (filters : RawFilters) entry =>
      filters.push entry.field entry.token entry.value) .empty).entries =
      ((list.map CollectedFilter.field).eraseDups).map fun field =>
        (field, operatorsOf list field) := by
  -- From the back, since a push changes the fields that are there already.
  induction list using List.reverseRecOn with
  | nil => rfl
  | append_singleton before last ih =>
      rw [List.foldl_append, List.foldl_cons, List.foldl_nil, RawFilters.entries_push, ih,
        push_entry_map _ _ _ (nodup_erase_dups _), List.map_append, List.map_singleton,
        erase_dups_concat]
      simp only [operators_of_concat]
      by_cases hseen : last.field ∈ before.map CollectedFilter.field
      · rw [if_pos hseen, if_pos (List.mem_eraseDups.mpr hseen)]
      · rw [if_neg hseen, if_neg (mt List.mem_eraseDups.mp hseen), List.map_append,
          List.map_singleton, if_pos rfl]
        have hnone : operatorsOf before last.field = [] := by
          rw [operatorsOf, List.map_eq_nil_iff, List.filter_eq_nil_iff]
          exact fun entry hentry hsame => hseen
            (List.mem_map.mpr ⟨entry, hentry, beq_iff_eq.mp hsame⟩)
        rw [hnone, List.nil_append]
        refine congrArg (· ++ [_]) (List.map_congr_left fun field hfield => ?_)
        rw [if_neg]
        rintro rfl
        exact hseen (List.mem_eraseDups.mp hfield)

section Parameters

variable (parameters : List (String × String))

theorem entries_of_parameters : (ofParameters parameters).filters.entries =
    (((collected parameters).map CollectedFilter.field).eraseDups).map fun field =>
      (field, operatorsOf (collected parameters) field) := by
  rw [filters_of_parameters, pushed_entries]

/-- The fields stand in the order in which they are first asked for. -/
theorem fields_of_parameters : (ofParameters parameters).filters.entries.map Prod.fst =
    ((asked parameters).map fun ask => ask.1.field).eraseDups := by
  have hkeys : (collected parameters).map CollectedFilter.field =
      ((asked parameters).map pairOf).eraseDups.map Prod.fst := by
    rw [← collected_keys_eq, ← collected_eq, collectedKeys, List.map_map]
    rfl
  rw [entries_of_parameters, List.map_map, hkeys, erase_dups_map_erase_dups, List.map_map]
  exact List.map_id _

/-- The operator tokens of a field stand in the order in which they are first asked for. -/
theorem tokens_of_parameters : ∀ entry ∈ (ofParameters parameters).filters.entries,
    entry.2.map Prod.fst = (((asked parameters).filter fun ask => ask.1.field == entry.1).map
      fun ask => ask.1.token).eraseDups := by
  intro entry hentry
  rw [entries_of_parameters] at hentry
  obtain ⟨field, -, rfl⟩ := List.mem_map.mp hentry
  have htokens : (operatorsOf (collected parameters) field).map Prod.fst =
      ((collectedKeys (collected parameters)).filter fun pair => pair.1 == field).map Prod.snd := by
    rw [operatorsOf, collectedKeys, List.filter_map, List.map_map, List.map_map]
    rfl
  show (operatorsOf (collected parameters) field).map Prod.fst = _
  rw [htokens, collected_eq, collected_keys_eq, seconds_of_erase_dups, List.filter_map,
    List.map_map]
  rfl

end Parameters

end Request

namespace RawFilters

/-- The value of a field and an operator token. -/
def valueAt? (filters : RawFilters) (field token : String) : Option Json :=
  (filters.entries.lookup field).bind fun operators => operators.lookup token

end RawFilters

namespace Request

/-- A value that was collected stands under its field and token. -/
theorem value_at_of_collected {parameters : List (String × String)} {entry : CollectedFilter}
    (h : entry ∈ collected parameters) :
    (ofParameters parameters).filters.valueAt? entry.field entry.token = some entry.value := by
  have hfield : entry.field ∈ ((collected parameters).map CollectedFilter.field).eraseDups :=
    List.mem_eraseDups.mpr (List.mem_map_of_mem h)
  have hoperators : (entry.field, operatorsOf (collected parameters) entry.field) ∈
      (ofParameters parameters).filters.entries := by
    rw [entries_of_parameters]
    exact List.mem_map.mpr ⟨entry.field, hfield, rfl⟩
  have hwritten : (entry.token, entry.value) ∈ operatorsOf (collected parameters) entry.field :=
    List.mem_map.mpr ⟨entry, List.mem_filter.mpr ⟨h, beq_self_eq_true _⟩, rfl⟩
  have htokens := of_parameters_distinct parameters _ hoperators
  rw [RawFilters.valueAt?, entries_of_parameters, lookup_map_names, if_pos hfield,
    Option.bind_some, lookup_of_mem htokens hwritten]

/-- There is no value for a field and a token for which none was collected. -/
theorem value_at_of_not_collected {parameters : List (String × String)} {field token : String}
    (h : (field, token) ∉ collectedKeys (collected parameters)) :
    (ofParameters parameters).filters.valueAt? field token = none := by
  rw [RawFilters.valueAt?, entries_of_parameters, lookup_map_names]
  split
  · rw [Option.bind_some, List.lookup_eq_none_iff]
    rintro written hwritten
    obtain ⟨entry, hentry, rfl⟩ := List.mem_map.mp hwritten
    obtain ⟨hmem, hsame⟩ := List.mem_filter.mp hentry
    have hfield : entry.field = field := beq_iff_eq.mp hsame
    refine bne_iff_ne.mpr fun htoken => h ?_
    exact List.mem_map.mpr ⟨entry, hmem, Prod.ext hfield htoken.symm⟩
  · rfl

/-- The value of a field and a token follows from the parameters that ask for them. -/
theorem value_at_of_parameters (parameters : List (String × String)) (field token : String) :
    (ofParameters parameters).filters.valueAt? field token =
      if asksFor (asked parameters) (field, token) = [] then none
      else some (valueOf (asksFor (asked parameters) (field, token))) := by
  have hasked : asksFor (asked parameters) (field, token) = [] ↔
      (field, token) ∉ collectedKeys (collected parameters) := by
    rw [collected_eq, collected_keys_eq, List.mem_eraseDups, asksFor, List.filter_eq_nil_iff]
    simp [List.mem_map]
  split
  · next hnone => exact value_at_of_not_collected (hasked.mp hnone)
  · next hsome =>
    rw [hasked, not_not] at hsome
    obtain ⟨entry, hentry, hpair⟩ := List.mem_map.mp hsome
    obtain ⟨rfl, rfl⟩ := Prod.mk.inj hpair
    rw [value_at_of_collected hentry]
    rw [collected_eq] at hentry
    exact congrArg some (collected_value hentry)

end Request

end EntityGate
