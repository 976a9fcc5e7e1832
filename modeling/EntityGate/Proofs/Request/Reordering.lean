import EntityGate.Proofs.Data.Sorted
import EntityGate.Proofs.Json.Equality
import EntityGate.Proofs.Request.Collected

/-!
# Parameters in another order

Parameters may change places as long as those of one key keep their order: see `Reordered`. What
controls the listing and what is kept by name stays the same then, since the last parameter of each
key counts: see `controlsOf` and `Reordered.of_parameters_eq`. The filters stay the same exactly if
fields and tokens are first asked for in the same order and come to the same values: see
`filters_eq_iff`.
-/

namespace EntityGate

namespace RawFilters

variable {filters other : RawFilters}

/-- The operator tokens of a field in their order. -/
def tokensAt (filters : RawFilters) (field : String) : List String :=
  ((filters.entries.lookup field).getD []).map Prod.fst

/-- The filters have the same values, in whatever order they stand. -/
def SameValues (filters other : RawFilters) : Prop :=
  ∀ field token, filters.valueAt? field token = other.valueAt? field token

/-- Distinct filters are determined by the order of their fields and tokens and by their values. -/
theorem eq_of_order (h : filters.Distinct)
    (hfields : filters.entries.map Prod.fst = other.entries.map Prod.fst)
    (htokens : ∀ field, filters.tokensAt field = other.tokensAt field)
    (hvalues : filters.SameValues other) : filters = other := by
  refine eq_of_entries (eq_of_keys_of_lookup filters.nodup hfields fun field => ?_)
  have hsome : (filters.entries.lookup field).isSome = (other.entries.lookup field).isSome := by
    rw [Bool.eq_iff_iff, lookup_is_some_iff, lookup_is_some_iff, hfields]
  have htokens := htokens field
  have hvalues := hvalues field
  unfold tokensAt at htokens
  unfold valueAt? at hvalues
  cases hfound : filters.entries.lookup field with
  | none =>
      rw [hfound] at hsome
      exact (Option.isSome_eq_false_iff.trans Option.isNone_iff_eq_none).mp hsome.symm |>.symm
  | some operators =>
      rw [hfound] at hsome
      obtain ⟨operators', hfound'⟩ := Option.isSome_iff_exists.mp hsome.symm
      simp only [hfound, hfound', Option.getD_some, Option.bind_some] at htokens hvalues
      have hoperators : operators = operators' :=
        eq_of_keys_of_lookup (h _ (mem_of_lookup hfound)) htokens hvalues
      rw [hfound', hoperators]

/-- A field with operators has a value. -/
theorem mem_fields_iff (hfilled : ∀ entry ∈ filters.entries, entry.2 ≠ []) {field : String} :
    field ∈ filters.entries.map Prod.fst ↔
      ∃ token, (filters.valueAt? field token).isSome := by
  constructor
  · intro hfield
    obtain ⟨entry, hentry, rfl⟩ := List.mem_map.mp hfield
    obtain ⟨operator, hoperator⟩ := List.exists_mem_of_ne_nil _ (hfilled entry hentry)
    refine ⟨operator.1, ?_⟩
    rw [valueAt?, lookup_of_mem filters.nodup hentry, Option.bind_some, lookup_is_some_iff]
    exact List.mem_map_of_mem hoperator
  · rintro ⟨token, hvalue⟩
    obtain ⟨value, hvalue⟩ := Option.isSome_iff_exists.mp hvalue
    obtain ⟨operators, hoperators, -⟩ := Option.bind_eq_some_iff.mp hvalue
    exact List.mem_map_of_mem (mem_of_lookup hoperators)

/-- Filters with the same values have equal JSON forms. -/
theorem SameValues.to_json (hvalues : filters.SameValues other) (h : filters.Distinct)
    (hother : other.Distinct) (hfilled : ∀ entry ∈ filters.entries, entry.2 ≠ [])
    (hfilled' : ∀ entry ∈ other.entries, entry.2 ≠ [])
    (hself : ∀ field token value, filters.valueAt? field token = some value →
      value.sameValue value = true) : filters.toJson.sameValue other.toJson = true := by
  have hkeys (list : List (String × List (String × Json))) :
      (list.map fun entry => (entry.1, Json.object entry.2)).map Prod.fst = list.map Prod.fst := by
    rw [List.map_map]
    rfl
  rw [to_json_of_distinct h, to_json_of_distinct hother]
  refine Json.same_object_of_keys (by rw [hkeys]; exact filters.nodup)
    (by rw [hkeys]; exact other.nodup) (fun field => ?_)
    fun field value value' hvalue hvalue' => ?_
  · rw [hkeys, hkeys, mem_fields_iff hfilled, mem_fields_iff hfilled']
    simp only [hvalues field]
  · rw [lookup_map_values Json.object] at hvalue hvalue'
    obtain ⟨operators, hoperators, rfl⟩ := Option.map_eq_some_iff.mp hvalue
    obtain ⟨operators', hoperators', rfl⟩ := Option.map_eq_some_iff.mp hvalue'
    have hat (token : String) : filters.valueAt? field token = operators.lookup token := by
      rw [valueAt?, hoperators, Option.bind_some]
    have hsame (token : String) : operators.lookup token = operators'.lookup token := by
      rw [← hat, hvalues, valueAt?, hoperators', Option.bind_some]
    refine Json.same_object_of_keys (h _ (mem_of_lookup hoperators))
      (hother _ (mem_of_lookup hoperators')) (fun token => ?_)
      fun token found found' hfound hfound' => ?_
    · rw [← lookup_is_some_iff, hsame, lookup_is_some_iff]
    · rw [← hsame, hfound] at hfound'
      obtain rfl := Option.some.inj hfound'
      exact hself field token found ((hat token).trans hfound)

end RawFilters

namespace Request

variable {parameters others : List (String × String)}

/-! ## The last of each key -/

/-- The names of the parameters that control a listing. -/
def controlNames : List String :=
  ["sort", "per_page", "page", "cursor", "pagination", "version", "model"]

theorem parameter_key_of_control : ∀ name ∈ controlNames, parameterKey name = .plain := by
  decide +kernel

/-- The parameter is kept by its name: it is no filter and controls nothing. -/
def IsKept (parameter : String × String) : Prop :=
  parameterKey parameter.1 = .plain ∧ parameter.1 ∉ controlNames

instance (parameter : String × String) : Decidable (IsKept parameter) :=
  inferInstanceAs (Decidable (_ ∧ _))

/-- The text of the last parameter of a name. -/
def lastText? (parameters : List (String × String)) (name : String) : Option String :=
  parameters.reverse.lookup name

theorem last_text_concat (parameters : List (String × String)) (key text name : String) :
    lastText? (parameters ++ [(key, text)]) name =
      if name = key then some text else lastText? parameters name := by
  rw [lastText?, List.reverse_append, List.reverse_singleton, List.singleton_append,
    lookup_cons_entry]
  rfl

/-- A parameter that is no filter replaces its control, or else what was kept by its name. -/
theorem with_control_eq (request : Request) (name text : String) :
    let trimmed := Text.trimChars text.toList
    request.withControl name text =
      { request with
        sort := if "sort" = name then Text.nonBlank? text else request.sort
        perPage := if "per_page" = name then Numeral.signed64? trimmed else request.perPage
        page := if "page" = name then Numeral.unsigned64? trimmed else request.page
        cursor := if "cursor" = name then Text.nonBlank? text else request.cursor
        pagination := if "pagination" = name then Text.nonBlank? text else request.pagination
        version := if "version" = name then Text.nonBlank? text else request.version
        model := if "model" = name then Text.nonBlank? text else request.model
        params :=
          if name ∈ controlNames then request.params else request.params.insert name text } := by
  unfold withControl
  split
  case h_8 => simp_all [controlNames, eq_comm]
  all_goals simp [controlNames]

/-- What the last parameter of each name controls, and what is kept by its name. -/
def controlsOf (parameters : List (String × String)) : Request where
  sort := (lastText? parameters "sort").bind Text.nonBlank?
  perPage := (lastText? parameters "per_page").bind fun text =>
    Numeral.signed64? (Text.trimChars text.toList)
  page := (lastText? parameters "page").bind fun text =>
    Numeral.unsigned64? (Text.trimChars text.toList)
  cursor := (lastText? parameters "cursor").bind Text.nonBlank?
  pagination := (lastText? parameters "pagination").bind Text.nonBlank?
  version := (lastText? parameters "version").bind Text.nonBlank?
  model := (lastText? parameters "model").bind Text.nonBlank?
  params := TextMap.ofList (parameters.filter fun parameter => IsKept parameter)

/-- One more parameter at the end changes what is controlled and kept as it changes a request. -/
theorem controls_of_concat (parameters : List (String × String)) (parameter : String × String) :
    controlsOf (parameters ++ [parameter]) =
      if parameterKey parameter.1 = .plain then
        (controlsOf parameters).withControl parameter.1 parameter.2
      else controlsOf parameters := by
  obtain ⟨name, text⟩ := parameter
  have hbind {β : Type} (control : String) (read : String → Option β) :
      (lastText? (parameters ++ [(name, text)]) control).bind read =
        if control = name then read text else (lastText? parameters control).bind read := by
    rw [last_text_concat]
    split <;> rfl
  by_cases hplain : parameterKey name = .plain
  · have hparams : TextMap.ofList ((parameters ++ [(name, text)]).filter fun parameter =>
        IsKept parameter) = if name ∈ controlNames then (controlsOf parameters).params
          else (controlsOf parameters).params.insert name text := by
      rw [List.filter_append]
      split
      · next h => simp [IsKept, h, controlsOf]
      · next h => simp [IsKept, hplain, h, controlsOf, TextMap.of_list_concat]
    rw [if_pos hplain, with_control_eq, controlsOf, hparams]
    simp only [hbind]
    rfl
  · have hother : ∀ control ∈ controlNames, control ≠ name := by
      rintro control hcontrol rfl
      exact hplain (parameter_key_of_control control hcontrol)
    have hparams : (parameters ++ [(name, text)]).filter (fun parameter => IsKept parameter) =
        parameters.filter fun parameter => IsKept parameter := by
      simp [List.filter_append, IsKept, hplain]
    simp only [controlNames, List.forall_mem_cons] at hother
    rw [if_neg hplain, controlsOf, hparams]
    simp only [hbind, hother, if_false]
    rfl

/-- The request of decoded parameters, its filters aside. -/
theorem of_parameters_eq (parameters : List (String × String)) :
    ofParameters parameters =
      { controlsOf parameters with filters := (ofParameters parameters).filters } := by
  have hcontrols : (parameters.foldl withParameter ({}, [])).1 = controlsOf parameters := by
    -- From the back, since the last parameter of a name is the one that counts.
    induction parameters using List.reverseRecOn with
    | nil => rfl
    | append_singleton before parameter ih =>
        rw [List.foldl_append, List.foldl_cons, List.foldl_nil, controls_of_concat, ← ih]
        unfold withParameter
        cases parameterKey parameter.1 <;> rfl
  rw [← hcontrols]
  rfl

/-! ## Reordered parameters -/

/-- The parameters of one list are those of the other in another order, but those of one key have
kept their order. -/
structure Reordered (parameters others : List (String × String)) : Prop where
  perm : parameters.Perm others
  same_key : ∀ parameter ∈ parameters,
    (parameters.filter fun other => other.1 == parameter.1) =
      others.filter fun other => other.1 == parameter.1

namespace Reordered

theorem filter_key_eq (h : Reordered parameters others) (key : String) :
    (parameters.filter fun parameter => parameter.1 == key) =
      others.filter fun parameter => parameter.1 == key := by
  have hperm := h.perm.filter fun parameter => parameter.1 == key
  cases hfound : parameters.filter fun parameter => parameter.1 == key with
  | nil =>
      rw [hfound] at hperm
      exact hperm.nil_eq
  | cons parameter rest =>
      have hmem : parameter ∈ parameters.filter fun parameter => parameter.1 == key :=
        hfound ▸ List.mem_cons_self
      obtain ⟨hparameter, hkey⟩ := List.mem_filter.mp hmem
      rw [← hfound, ← beq_iff_eq.mp hkey]
      exact h.same_key parameter hparameter

/-- The last parameter of each name is the same. -/
theorem last_text_eq (h : Reordered parameters others) (name : String) :
    lastText? parameters name = lastText? others name := by
  unfold lastText?
  rw [← lookup_filter_key, List.filter_reverse, h.filter_key_eq, ← List.filter_reverse,
    lookup_filter_key]

/-- The parameters that are kept are reordered as well. -/
theorem kept (h : Reordered parameters others) :
    Reordered (parameters.filter fun parameter => IsKept parameter)
      (others.filter fun parameter => IsKept parameter) := by
  refine ⟨h.perm.filter _, fun parameter _ => ?_⟩
  rw [List.filter_comm, h.filter_key_eq, List.filter_comm]

/-- Parameters in another order control the same and are kept the same. -/
theorem controls_of_eq (h : Reordered parameters others) :
    controlsOf parameters = controlsOf others := by
  have hparams : TextMap.ofList (parameters.filter fun parameter => IsKept parameter) =
      TextMap.ofList (others.filter fun parameter => IsKept parameter) := by
    refine TextMap.eq_of_find fun key => ?_
    rw [TextMap.find_of_list, TextMap.find_of_list]
    exact h.kept.last_text_eq key
  unfold controlsOf
  simp only [h.last_text_eq, hparams]

/-- Parameters in another order come to the same request but for the filters. -/
theorem of_parameters_eq (h : Reordered parameters others) :
    ofParameters parameters =
      { ofParameters others with filters := (ofParameters parameters).filters } := by
  rw [Request.of_parameters_eq parameters, Request.of_parameters_eq others, h.controls_of_eq]

end Reordered

/-! ## Filters -/

/-- Fields, and the operator tokens of each field, are first asked for in the same order. -/
structure AskedAlike (parameters others : List (String × String)) : Prop where
  fields : ((asked parameters).map fun ask => ask.1.field).eraseDups =
    ((asked others).map fun ask => ask.1.field).eraseDups
  tokens : ∀ field, (((asked parameters).filter fun ask => ask.1.field == field).map
      fun ask => ask.1.token).eraseDups =
    (((asked others).filter fun ask => ask.1.field == field).map fun ask => ask.1.token).eraseDups

/-- The operator tokens of a field stand in the order in which they are first asked for. -/
theorem tokens_at_of_parameters (parameters : List (String × String)) (field : String) :
    (ofParameters parameters).filters.tokensAt field =
      (((asked parameters).filter fun ask => ask.1.field == field).map
        fun ask => ask.1.token).eraseDups := by
  unfold RawFilters.tokensAt
  cases hfound : (ofParameters parameters).filters.entries.lookup field with
  | some operators => exact tokens_of_parameters parameters _ (mem_of_lookup hfound)
  | none =>
      have hnone : field ∉ (ofParameters parameters).filters.entries.map Prod.fst := by
        rw [← lookup_is_some_iff, hfound]
        exact Bool.false_ne_true
      rw [fields_of_parameters, List.mem_eraseDups] at hnone
      have hasked : (asked parameters).filter (fun ask => ask.1.field == field) = [] :=
        List.filter_eq_nil_iff.mpr fun ask hask hfield =>
          hnone (List.mem_map.mpr ⟨ask, hask, beq_iff_eq.mp hfield⟩)
      rw [hasked]
      rfl

/-- Parameters come to the same filters exactly if they ask for them in the same order and with the
same values. -/
theorem filters_eq_iff : (ofParameters parameters).filters = (ofParameters others).filters ↔
    AskedAlike parameters others ∧
      (ofParameters parameters).filters.SameValues (ofParameters others).filters := by
  constructor
  · intro h
    refine ⟨⟨?_, fun field => ?_⟩, fun field token => by rw [h]⟩
    · rw [← fields_of_parameters, h, fields_of_parameters]
    · rw [← tokens_at_of_parameters, h, tokens_at_of_parameters]
  · rintro ⟨hasked, hvalues⟩
    refine RawFilters.eq_of_order (of_parameters_distinct parameters) ?_ (fun field => ?_) hvalues
    · rw [fields_of_parameters, hasked.fields, fields_of_parameters]
    · rw [tokens_at_of_parameters, hasked.tokens, tokens_at_of_parameters]

/-- Parameters that ask for the same filters one after the other come to the same ones. -/
theorem filters_of_asked_eq (h : asked parameters = asked others) :
    (ofParameters parameters).filters = (ofParameters others).filters := by
  rw [filters_of_parameters, filters_of_parameters, collected_eq, collected_eq, h]

/-- The value of a field and a token follows from the parameters that ask for them. -/
theorem value_at_congr {field token : String}
    (h : (parameters.filter fun parameter => Asks parameter field token) =
      others.filter fun parameter => Asks parameter field token) :
    (ofParameters parameters).filters.valueAt? field token =
      (ofParameters others).filters.valueAt? field token := by
  rw [value_at_of_parameters, value_at_of_parameters, asks_for_asked, asks_for_asked, h]

end Request

end EntityGate
