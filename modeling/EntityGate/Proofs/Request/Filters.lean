import EntityGate.Proofs.Json.Fields
import EntityGate.Request.Basic

/-!
# Filters of a query string

A query string gives at most one value for each field and operator token. Filters of that kind can
be read off their JSON form, so that two requests whose filters are written alike have the same
filters: see `to_json_injective`.
-/

namespace EntityGate

namespace RawFilters

/-- Under each field each operator token occurs once. -/
def Distinct (filters : RawFilters) : Prop :=
  ∀ entry ∈ filters.entries, (entry.2.map Prod.fst).Nodup

/-- There is no value for the field and the operator token. -/
def Lacks (filters : RawFilters) (field token : String) : Prop :=
  ∀ entry ∈ filters.entries, entry.1 = field → token ∉ entry.2.map Prod.fst

theorem eq_of_entries {filters other : RawFilters} (h : filters.entries = other.entries) :
    filters = other := by
  obtain ⟨entries, hentries⟩ := filters
  obtain ⟨others, hothers⟩ := other
  obtain rfl : entries = others := h
  rfl

/-! ## The JSON form -/

theorem to_json_of_distinct {filters : RawFilters} (h : filters.Distinct) :
    filters.toJson = .object (filters.entries.map fun entry => (entry.1, .object entry.2)) := by
  have hentries : filters.entries.map (fun entry =>
        (entry.1, Json.object (JsonFields.ofList entry.2))) =
      filters.entries.map fun entry => (entry.1, .object entry.2) := by
    refine List.map_congr_left fun entry hentry => ?_
    rw [JsonFields.of_list_of_nodup (h entry hentry)]
  unfold toJson
  rw [hentries, JsonFields.of_list_of_nodup]
  simpa [Function.comp_def] using filters.nodup

/-- Distinct filters are determined by their JSON form. -/
theorem to_json_injective {filters other : RawFilters} (hfilters : filters.Distinct)
    (hother : other.Distinct) (h : filters.toJson = other.toJson) : filters = other := by
  rw [to_json_of_distinct hfilters, to_json_of_distinct hother] at h
  refine eq_of_entries ((List.map_inj_right ?_).mp (Json.object.inj h))
  rintro ⟨field, operators⟩ ⟨field', operators'⟩ hentry
  simp only [Prod.mk.injEq, Json.object.injEq] at hentry
  exact Prod.ext hentry.1 hentry.2

/-! ## One more filter -/

theorem mem_push_entry {field : String} {operator : String × Json}
    {entries : List (String × List (String × Json))} {entry : String × List (String × Json)}
    (h : entry ∈ pushEntry field operator entries) :
    entry ∈ entries ∨ entry = (field, [operator]) ∨
      ∃ operators, (field, operators) ∈ entries ∧ entry = (field, operators ++ [operator]) := by
  induction entries with
  | nil => exact .inr (.inl (by simpa [pushEntry] using h))
  | cons first rest ih =>
      obtain ⟨name, operators⟩ := first
      by_cases hname : name = field
      · subst hname
        simp only [pushEntry, beq_self_eq_true, if_true, List.mem_cons] at h
        rcases h with rfl | h
        · exact .inr (.inr ⟨operators, List.mem_cons_self, rfl⟩)
        · exact .inl (List.mem_cons_of_mem _ h)
      · simp only [pushEntry, beq_iff_eq, hname, if_false, List.mem_cons] at h
        rcases h with rfl | h
        · exact .inl List.mem_cons_self
        · rcases ih h with hold | hnew | ⟨operators, hmem, hentry⟩
          · exact .inl (List.mem_cons_of_mem _ hold)
          · exact .inr (.inl hnew)
          · exact .inr (.inr ⟨operators, List.mem_cons_of_mem _ hmem, hentry⟩)

/-- Filters stay distinct when what is pushed was lacking. -/
theorem push_distinct {filters : RawFilters} {field token : String} (value : Json)
    (h : filters.Distinct) (hlacks : filters.Lacks field token) :
    (filters.push field token value).Distinct := by
  intro entry hentry
  rcases mem_push_entry hentry with hold | rfl | ⟨operators, hmem, rfl⟩
  · exact h entry hold
  · simp
  · simp only [List.map_append, List.map_cons, List.map_nil]
    refine List.nodup_append.mpr ⟨h _ hmem, by simp, fun name hname other hother => ?_⟩
    rintro rfl
    exact hlacks _ hmem rfl (List.mem_singleton.mp hother ▸ hname)

/-- A filter that is pushed is the only one that stops lacking. -/
theorem push_lacks {filters : RawFilters} {field token field' token' : String} (value : Json)
    (hlacks : filters.Lacks field' token') (hdifferent : (field', token') ≠ (field, token)) :
    (filters.push field token value).Lacks field' token' := by
  intro entry hentry hfield
  rcases mem_push_entry hentry with hold | rfl | ⟨operators, hmem, rfl⟩
  · exact hlacks entry hold hfield
  · intro htoken
    exact hdifferent (Prod.ext hfield.symm (by simpa using htoken))
  · simp only [List.map_append, List.map_cons, List.map_nil, List.mem_append,
      List.mem_singleton, not_or]
    exact ⟨hlacks _ hmem hfield, fun htoken => hdifferent (Prod.ext hfield.symm htoken)⟩

end RawFilters

namespace Request

/-! ## Reading a query string -/

/-- The fields and operator tokens that values were collected for. -/
def collectedKeys (collected : List CollectedFilter) : List (String × String) :=
  collected.map fun entry => (entry.field, entry.token)

theorem collected_keys_collect (key : FilterKey) (value : Json)
    (collected : List CollectedFilter) :
    collectedKeys (collect key value collected) =
      if (key.field, key.token) ∈ collectedKeys collected then collectedKeys collected
      else collectedKeys collected ++ [(key.field, key.token)] := by
  unfold collectedKeys
  induction collected with
  | nil => rfl
  | cons entry rest ih =>
      by_cases hsame : entry.field = key.field ∧ entry.token = key.token
      · cases hlist : key.isList <;> simp [collect, hsame, hlist]
      · have hkey : (entry.field == key.field && entry.token == key.token) = false := by
          simpa using hsame
        have hpair : ¬(key.field, key.token) = (entry.field, entry.token) := by
          simp only [Prod.mk.injEq, not_and]
          exact fun hfield htoken => hsame ⟨hfield.symm, htoken.symm⟩
        simp only [collect, hkey, Bool.false_eq_true, if_false, List.map_cons, ih, List.mem_cons,
          hpair, false_or]
        split <;> simp

theorem collected_keys_nodup {key : FilterKey} {value : Json} {collected : List CollectedFilter}
    (h : (collectedKeys collected).Nodup) :
    (collectedKeys (collect key value collected)).Nodup := by
  rw [collected_keys_collect]
  split
  · exact h
  · rename_i hnew
    refine List.nodup_append.mpr ⟨h, by simp, fun pair hpair other hother => ?_⟩
    rintro rfl
    exact hnew (List.mem_singleton.mp hother ▸ hpair)

theorem with_control_filters (request : Request) (key value : String) :
    (request.withControl key value).filters = request.filters := by
  unfold withControl
  split <;> rfl

/-- What a query string is read into: no filters yet, and values collected once for each field
and operator token. -/
theorem with_parameter_invariant (parameters : List (String × String))
    (state : Request × List CollectedFilter) (hfilters : state.1.filters = .empty)
    (hkeys : (collectedKeys state.2).Nodup) :
    (parameters.foldl withParameter state).1.filters = .empty ∧
      (collectedKeys (parameters.foldl withParameter state).2).Nodup := by
  -- Only a filter parameter touches the collected values, and it replaces or adds one of them.
  induction parameters generalizing state with
  | nil => exact ⟨hfilters, hkeys⟩
  | cons parameter rest ih =>
      obtain ⟨request, collected⟩ := state
      rw [List.foldl_cons]
      cases hparameter : parameterKey parameter.1 with
      | filter key =>
          exact ih _ (by simpa [withParameter, hparameter] using hfilters)
            (by simpa [withParameter, hparameter] using collected_keys_nodup hkeys)
      | malformedFilter =>
          exact ih _ (by simpa [withParameter, hparameter] using hfilters)
            (by simpa [withParameter, hparameter] using hkeys)
      | plain =>
          exact ih _
            (by simpa [withParameter, hparameter, with_control_filters] using hfilters)
            (by simpa [withParameter, hparameter] using hkeys)

theorem push_collected_distinct {collected : List CollectedFilter} {filters : RawFilters}
    (hkeys : (collectedKeys collected).Nodup) (hdistinct : filters.Distinct)
    (hlacks : ∀ entry ∈ collected, filters.Lacks entry.field entry.token) :
    (collected.foldl (fun filters entry => filters.push entry.field entry.token entry.value)
      filters).Distinct := by
  induction collected generalizing filters with
  | nil => exact hdistinct
  | cons entry rest ih =>
      simp only [collectedKeys, List.map_cons, List.nodup_cons] at hkeys
      refine ih hkeys.2
        (RawFilters.push_distinct _ hdistinct (hlacks entry List.mem_cons_self)) ?_
      intro other hother
      refine RawFilters.push_lacks _ (hlacks other (List.mem_cons_of_mem _ hother)) fun heq => ?_
      exact hkeys.1 (heq ▸ List.mem_map.mpr ⟨other, hother, rfl⟩)

/-- What is collected from decoded parameters. -/
def collected (parameters : List (String × String)) : List CollectedFilter :=
  (parameters.foldl withParameter ({}, [])).2

theorem collected_nodup (parameters : List (String × String)) :
    (collectedKeys (collected parameters)).Nodup :=
  (with_parameter_invariant parameters ({}, []) rfl List.nodup_nil).2

/-- The filters are what was collected, pushed one after the other. -/
theorem filters_of_parameters (parameters : List (String × String)) :
    (ofParameters parameters).filters = (collected parameters).foldl
      (fun filters entry => filters.push entry.field entry.token entry.value) .empty := by
  have hfilters := (with_parameter_invariant parameters ({}, []) rfl List.nodup_nil).1
  show (collected parameters).foldl _ (parameters.foldl withParameter ({}, [])).1.filters = _
  rw [hfilters]

/-- The filters of decoded parameters are distinct. -/
theorem of_parameters_distinct (parameters : List (String × String)) :
    (ofParameters parameters).filters.Distinct := by
  rw [filters_of_parameters]
  exact push_collected_distinct (collected_nodup parameters) nofun fun _ _ => nofun

/-- The filters of a query string are distinct. -/
theorem of_query_distinct (query : String) : (ofQuery query).filters.Distinct :=
  of_parameters_distinct _

end Request

end EntityGate
