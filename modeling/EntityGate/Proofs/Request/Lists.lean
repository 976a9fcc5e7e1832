import EntityGate.Proofs.Json.Equality
import EntityGate.Proofs.Request.Encounters
import EntityGate.Proofs.Request.Parameters

/-!
# Lists of single values

A list filter takes the first occurrences of the single values that were written for it, each of
them in the form in which it is found again: see `coerce_list_eq`, `Holds.is_single` and
`coerce_list_array`. So only these values count in parsing (`parse_listed`), and it does not matter
whether texts are joined by commas in one parameter or come in one parameter each:
`coerce_list_canonical` puts all of this together.
-/

namespace EntityGate

namespace Filter

/-! ## Single values -/

/-- The item is one of the single values that the value holds. -/
inductive Holds : Json → Json → Prop where
  | bool (truth) : Holds (.bool truth) (.bool truth)
  | number (amount) : Holds (.number amount) (.number amount)
  | object (fields) : Holds (.object fields) (.object fields)
  | part {text part} : part ∈ Text.split (· == ',') text → Text.trim part ≠ "" →
      Holds (.string text) (.string (Text.trim part))
  | item {items item value} : item ∈ items → Holds item value → Holds (.array items) value

/-- The value is no null and no array, and if it is a text, it is not empty and has no comma and no
white space around it. -/
def IsSingle : Json → Prop
  | .null | .array _ => False
  | .string text => text ≠ "" ∧ ',' ∉ text.toList ∧ Text.trim text = text
  | .bool _ | .number _ | .object _ => True

theorem list_items_eq (items : List Json) : listItems items = items.flatMap listValues := by
  induction items with
  | nil => rfl
  | cons item rest ih => rw [listItems, ih, List.flatMap_cons]

theorem list_values_array (items : List Json) :
    listValues (.array items) = items.flatMap listValues := by
  rw [listValues, list_items_eq]

theorem list_values_string (text : String) : listValues (.string text) =
    (((Text.split (· == ',') text).map Text.trim).filter
      fun part => !part.isEmpty).map .string := by
  rw [listValues]

mutual

theorem holds_of_mem_list_values : ∀ {value item : Json}, item ∈ listValues value → Holds value item
  | .null, _, h => by simp [listValues] at h
  | .string text, _, h => by
      simp only [list_values_string, List.mem_map, List.mem_filter] at h
      obtain ⟨_, ⟨⟨part, hpart, rfl⟩, hfilled⟩, rfl⟩ := h
      exact .part hpart (by simpa using hfilled)
  | .array items, _, h => by
      rw [listValues] at h
      obtain ⟨member, hmember, hholds⟩ := holds_of_mem_list_items h
      exact .item hmember hholds
  | .bool truth, _, h => by
      obtain rfl := List.mem_singleton.mp (by simpa only [listValues] using h)
      exact .bool truth
  | .number amount, _, h => by
      obtain rfl := List.mem_singleton.mp (by simpa only [listValues] using h)
      exact .number amount
  | .object fields, _, h => by
      obtain rfl := List.mem_singleton.mp (by simpa only [listValues] using h)
      exact .object fields

theorem holds_of_mem_list_items : ∀ {items : List Json} {item : Json}, item ∈ listItems items →
    ∃ member ∈ items, Holds member item
  | [], _, h => by simp [listItems] at h
  | first :: rest, _, h => by
      rw [listItems] at h
      rcases List.mem_append.mp h with h | h
      · exact ⟨first, List.mem_cons_self, holds_of_mem_list_values h⟩
      · obtain ⟨member, hmember, hholds⟩ := holds_of_mem_list_items h
        exact ⟨member, List.mem_cons_of_mem _ hmember, hholds⟩

end

/-- The values that are listed are those that the value holds. -/
theorem mem_list_values_iff {value item : Json} : item ∈ listValues value ↔ Holds value item := by
  refine ⟨holds_of_mem_list_values, fun h => ?_⟩
  induction h with
  | bool | number | object => simp [listValues]
  | part hpart hfilled =>
      rw [list_values_string]
      exact List.mem_map_of_mem (List.mem_filter.mpr
        ⟨List.mem_map_of_mem hpart, by simpa using hfilled⟩)
  | item hitem _ ih =>
      rw [list_values_array]
      exact List.mem_flatMap.mpr ⟨_, hitem, ih⟩

theorem Holds.is_single {value item : Json} (h : Holds value item) : IsSingle item := by
  induction h with
  | bool | number | object => trivial
  | @part text part hpart hfilled =>
      obtain ⟨piece, hpiece, rfl⟩ := List.mem_map.mp hpart
      refine ⟨hfilled, fun hcomma => ?_, Text.trim_trim _⟩
      simp only [Text.trim, String.toList_ofList] at hcomma
      have h := Text.not_separator_of_mem_piece hpiece ',' (Text.mem_of_mem_trim_chars hcomma)
      cases h
  | item _ _ ih => exact ih

/-- A single value holds itself only. -/
theorem list_values_of_single {value : Json} (h : IsSingle value) : listValues value = [value] := by
  cases value with
  | null | array => exact h.elim
  | bool | number | object => simp [listValues]
  | string text =>
      obtain ⟨hfilled, hcomma, htrim⟩ := h
      have hnone : ∀ char ∈ text.toList, (char == ',') = false := by
        rintro char hchar
        refine beq_eq_false_iff_ne.mpr ?_
        rintro rfl
        exact hcomma hchar
      have hpieces : Text.split (· == ',') text = [text] := by
        rw [Text.split, Text.split_chars_of_none hnone, List.map_singleton, String.ofList_toList]
      simp [list_values_string, hpieces, htrim, hfilled]

/-! ## First occurrences -/

/-- The values that are equal to none before them, in their order. -/
def firstOccurrences (found : List Json) : List Json :=
  (found.zipIdx.filter fun place =>
    (found.take place.2).all fun earlier => !earlier.sameValue place.1).map Prod.fst

/-- The values kept so far stand for all that were found before: equality leads on from a kept one
to what equals a dropped one. -/
theorem distinct_from_eq {kept before : List Json} (found : List Json)
    (hkept : ∀ value, (kept.any fun earlier => earlier.sameValue value) =
      before.any fun earlier => earlier.sameValue value) :
    distinctFrom kept found = ((found.zipIdx before.length).filter fun place =>
      ((before ++ found).take place.2).all fun earlier =>
        !earlier.sameValue place.1).map Prod.fst := by
  induction found generalizing kept before with
  | nil => rfl
  | cons value rest ih =>
      have hfirst : (before ++ value :: rest).take before.length = before := List.take_left
      have hlength : before.length + 1 = (before ++ [value]).length := by simp
      rw [List.zipIdx_cons, List.filter_cons, hfirst, distinctFrom, List.append_cons before,
        hlength, ← List.not_any_eq_all_not]
      cases hseen : kept.any fun earlier => earlier.sameValue value with
      | true =>
          rw [hkept] at hseen
          simp only [hseen, Bool.not_true, Bool.false_eq_true, if_false, if_true]
          refine ih fun other => ?_
          rw [hkept, List.any_append, List.any_cons, List.any_nil, Bool.or_false]
          cases hother : value.sameValue other with
          | false => rw [Bool.or_false]
          | true =>
              obtain ⟨earlier, hearlier, hsame⟩ := List.any_eq_true.mp hseen
              rw [Bool.or_true]
              exact List.any_eq_true.mpr ⟨earlier, hearlier, Json.same_value_trans hsame hother⟩
      | false =>
          rw [hkept] at hseen
          simp only [hseen, Bool.not_false, Bool.false_eq_true, if_false, if_true, List.map_cons]
          refine congrArg (value :: ·) (ih fun other => ?_)
          rw [List.any_append, hkept, List.any_append]

theorem coerce_list_eq (value : Json) : coerceList value = firstOccurrences (listValues value) :=
  distinct_from_eq (listValues value) (fun _ => rfl)

/-- Values without repetitions are kept as they are. -/
theorem distinct_from_of_apart {kept found : List Json}
    (hkept : ∀ earlier ∈ kept, ∀ value ∈ found, earlier.sameValue value = false)
    (h : found.Pairwise fun earlier later => earlier.sameValue later = false) :
    distinctFrom kept found = found := by
  induction found generalizing kept with
  | nil => rfl
  | cons value rest ih =>
      obtain ⟨hvalue, hrest⟩ := List.pairwise_cons.mp h
      have hnew : (kept.any fun earlier => earlier.sameValue value) = false :=
        List.any_eq_false.mpr fun earlier hearlier => by
          simp [hkept earlier hearlier value List.mem_cons_self]
      rw [distinctFrom, hnew, if_neg Bool.false_ne_true, ih ?_ hrest]
      intro earlier hearlier later hlater
      rcases List.mem_append.mp hearlier with hearlier | hearlier
      · exact hkept earlier hearlier later (List.mem_cons_of_mem _ hlater)
      · obtain rfl := List.mem_singleton.mp hearlier
        exact hvalue later hlater

theorem single_of_mem_coerce_list {value item : Json} (h : item ∈ coerceList value) :
    IsSingle item :=
  (mem_list_values_iff.mp ((coerce_list_distinct value).sublist.subset h)).is_single

/-- The list of the values taken from a value is taken as it is. -/
theorem coerce_list_array (value : Json) :
    coerceList (.array (coerceList value)) = coerceList value := by
  have hvalues : listValues (.array (coerceList value)) = coerceList value := by
    rw [list_values_array, List.flatMap_congr fun item hitem =>
      list_values_of_single (single_of_mem_coerce_list hitem)]
    exact List.flatMap_singleton' _
  unfold coerceList at hvalues ⊢
  rw [hvalues]
  exact distinct_from_of_apart nofun (coerce_list_distinct value).apart

/-- Texts joined by commas hold what the texts hold. -/
theorem coerce_list_join (texts : List String) :
    coerceList (.string (Text.join "," texts)) = coerceList (Json.ofStrings texts) := by
  have hvalues :
      listValues (.string (Text.join "," texts)) = listValues (Json.ofStrings texts) := by
    rw [list_values_string, Text.split, Json.ofStrings, list_values_array]
    cases texts with
    | nil => rfl
    | cons first rest =>
        have hcomma : String.ofList [','] = "," := rfl
        rw [← hcomma, @Text.split_chars_join (· == ',') ',' (beq_self_eq_true ',')]
        simp [List.map_flatMap, List.filter_flatMap, List.flatMap_map, list_values_string,
          Text.split]
  rw [coerceList, hvalues, coerceList]

/-! ## Lists in parsing -/

/-- What was written for an operator, as the list of its single values if the operator takes one. -/
def listed (token : String) (raw : Json) : Json :=
  match FilterOperator.ofToken? token with
  | some operator => if operator.isMulti then .array (coerceList raw) else raw
  | none => raw

theorem listed_congr {token : String} {operator : FilterOperator} {raw other : Json}
    (htoken : FilterOperator.ofToken? token = some operator) (hmulti : operator.isMulti = true)
    (h : coerceList raw = coerceList other) : listed token raw = listed token other := by
  simp only [listed, htoken, hmulti, if_true, h]

/-- An operator makes the same of what was written and of the list of its values. -/
theorem normalize_listed {token : String} {operator : FilterOperator}
    (htoken : FilterOperator.ofToken? token = some operator) (field : String) (raw : Json) :
    normalize field operator (listed token raw) = normalize field operator raw := by
  cases hmulti : operator.isMulti with
  | false => simp only [listed, htoken, hmulti, Bool.false_eq_true, if_false]
  | true =>
      simp only [listed, htoken, hmulti, if_true]
      cases operator with
      | oneOf | between => simp only [normalize, coerce_list_array]
      | _ => cases hmulti

end Filter

namespace RawFilters

/-- The filters with the lists of single values in place of what was written for list operators. -/
def listed (filters : RawFilters) : RawFilters where
  entries := filters.entries.map fun entry =>
    (entry.1, entry.2.map fun written => (written.1, Filter.listed written.1 written.2))
  nodup := by
    rw [List.map_map]
    exact filters.nodup

theorem listed_push (filters : RawFilters) (field token : String) (value : Json) :
    (filters.push field token value).listed =
      filters.listed.push field token (Filter.listed token value) := by
  simp only [listed, push, mk.injEq]
  induction filters.entries with
  | nil => rfl
  | cons entry rest ih =>
      obtain ⟨name, operators⟩ := entry
      by_cases hname : name = field
      · simp [pushEntry, hname]
      · simpa [pushEntry, hname] using ih

end RawFilters

namespace Filter

/-- The encounter with the list of single values in place of what was written for a list
operator. -/
def Encounter.listed : Encounter → Encounter
  | .field name => .field name
  | .pair name token raw => .pair name token (Filter.listed token raw)

theorem encounters_listed (filters : RawFilters) :
    encounters filters.listed = (encounters filters).map Encounter.listed := by
  simp [encounters, encountersOf, RawFilters.listed, List.flatMap_map, List.map_flatMap,
    Function.comp_def, Encounter.listed]

namespace Grammar

theorem answer_listed (grammar : Grammar) (validate : InputValidator) (encounter : Encounter) :
    grammar.answer validate encounter.listed = grammar.answer validate encounter := by
  cases encounter with
  | field name => rfl
  | pair field token raw =>
      rw [Encounter.listed]
      cases hlive : grammar.liveOperator? field token with
      | none => simp only [answer, hlive]
      | some operator =>
          obtain ⟨htoken, -⟩ := Option.filter_eq_some_iff.mp hlive
          simp only [answer, hlive, instruct, normalize_listed htoken]

/-- Of what was written for list operators only the single values count. -/
theorem parse_listed (grammar : Grammar) (validate : InputValidator) (filters : RawFilters) :
    grammar.parse validate filters.listed = grammar.parse validate filters := by
  rw [parse_eq, parse_eq, encounters_listed, List.mapM_map]
  simp only [Function.comp_def, answer_listed]

end Grammar

end Filter

/-! ## Lists in parameters -/

namespace Request

theorem listed_foldl_push (collected : List CollectedFilter) (filters : RawFilters) :
    (collected.foldl (fun filters entry => filters.push entry.field entry.token entry.value)
      filters).listed =
    collected.foldl (fun filters entry =>
      filters.push entry.field entry.token (Filter.listed entry.token entry.value))
      filters.listed := by
  induction collected generalizing filters with
  | nil => rfl
  | cons entry rest ih => rw [List.foldl_cons, List.foldl_cons, ih, RawFilters.listed_push]

theorem of_parameters_filters (parameters : List (String × String)) :
    (ofParameters parameters).filters =
      (parameters.foldl withParameter ({}, [])).2.foldl
        (fun filters entry => filters.push entry.field entry.token entry.value)
        (parameters.foldl withParameter ({}, [])).1.filters := rfl

/-- A parameter with texts joined by commas and a parameter for each of the texts, among the same
other parameters, write filters with the same lists. -/
theorem listed_of_parameters {field token : String} {operator : FilterOperator}
    (hfield : ']' ∉ field.toList) (htoken : ']' ∉ token.toList)
    (hoperator : FilterOperator.ofToken? token = some operator)
    (hmulti : operator.isMulti = true) (first : String) (rest : List String)
    {before after : List (String × String)}
    (hbefore : ∀ parameter ∈ before, ¬Asks parameter field token)
    (hafter : ∀ parameter ∈ after, ¬Asks parameter field token) :
    (ofParameters (before ++ (filterParameter field token false, Text.join "," (first :: rest)) ::
        after)).filters.listed =
      (ofParameters (before ++
        ((first :: rest).map fun text => (filterParameter field token true, text)) ++
          after)).filters.listed := by
  have hfilled : token ≠ "" := by
    rintro rfl
    have hnone : FilterOperator.ofToken? "" = none := by decide
    cases hnone.symm.trans hoperator
  have hkey := parameter_key_of_filter hfield htoken hfilled
  rcases hstate : before.foldl withParameter ({}, []) with ⟨request, collected⟩
  have hlacks : (field, token) ∉ collectedKeys collected := by
    have h : (field, token) ∉ collectedKeys (before.foldl withParameter ({}, [])).2 :=
      foldl_parameters_keys hbefore (by simp [collectedKeys])
    rwa [hstate] at h
  obtain ⟨request', before', after', hrest⟩ := foldl_other_parameters hafter request collected []
  let joined : CollectedFilter := ⟨field, token, [.string (Text.join "," (first :: rest))], false⟩
  let parted : CollectedFilter := ⟨field, token, (first :: rest).map .string, true⟩
  have hjoined : (before ++ (filterParameter field token false, Text.join "," (first :: rest)) ::
      after).foldl withParameter ({}, []) = (request', before' ++ joined :: after') := by
    rw [List.foldl_append, hstate, List.foldl_cons, with_filter_parameter (hkey false),
      collect_lacking hlacks]
    exact hrest joined rfl rfl
  have hparted : (before ++ ((first :: rest).map fun text =>
      (filterParameter field token true, text)) ++ after).foldl withParameter ({}, []) =
        (request', before' ++ parted :: after') := by
    rw [List.foldl_append, List.foldl_append, hstate,
      foldl_list_parameters (hkey true) request hlacks]
    exact hrest parted rfl rfl
  have hvalue : Filter.listed token joined.value = Filter.listed token parted.value :=
    Filter.listed_congr hoperator hmulti (Filter.coerce_list_join (first :: rest))
  rw [of_parameters_filters, of_parameters_filters, hjoined, hparted, listed_foldl_push,
    listed_foldl_push, List.foldl_append, List.foldl_append, List.foldl_cons, List.foldl_cons]
  rw [hvalue]

end Request

/-- A list filter takes the first occurrences of the single values that were written, in their
order: no two of them are equal, none is a null or an array, and a text among them is filled,
trimmed and without commas. Taking the list of them again changes nothing. Texts joined by commas
give the same list as the array of the texts, so that one parameter with the joined texts and one
parameter for each of them are parsed to the same filters, whatever other parameters stand around
them. -/
theorem Filter.coerce_list_canonical (value : Json) :
    (∀ item, item ∈ listValues value ↔ Holds value item) ∧
    coerceList value = firstOccurrences (listValues value) ∧
    (coerceList value).Pairwise (fun earlier later => earlier.sameValue later = false) ∧
    (∀ item ∈ coerceList value, IsSingle item) ∧
    coerceList (.array (coerceList value)) = coerceList value ∧
    (∀ texts : List String,
      coerceList (.string (Text.join "," texts)) = coerceList (Json.ofStrings texts)) ∧
    ∀ (grammar : Grammar) (validate : InputValidator) (field first : String) (rest : List String)
      (before after : List (String × String)), ']' ∉ field.toList →
      (∀ parameter ∈ before ++ after, ¬Request.Asks parameter field "in") →
      grammar.parse validate (Request.ofParameters (before ++
          (Request.filterParameter field "in" false, Text.join "," (first :: rest)) ::
            after)).filters =
        grammar.parse validate (Request.ofParameters (before ++
          ((first :: rest).map fun text => (Request.filterParameter field "in" true, text)) ++
            after)).filters := by
  refine ⟨fun _ => mem_list_values_iff, coerce_list_eq value, (coerce_list_distinct value).apart,
    fun _ => single_of_mem_coerce_list, coerce_list_array value, coerce_list_join, ?_⟩
  intro grammar validate field first rest before after hfield hothers
  have hoperator : FilterOperator.ofToken? "in" = some .oneOf := by decide
  have htoken : ']' ∉ "in".toList := by decide
  have hlisted := Request.listed_of_parameters hfield htoken hoperator rfl first rest
    (fun parameter h => hothers parameter (List.mem_append_left _ h))
    (fun parameter h => hothers parameter (List.mem_append_right _ h))
  rw [← Grammar.parse_listed, hlisted, Grammar.parse_listed]

/-- Blanks, an empty piece, a null, a nested array and repetitions, and the same texts in one
parameter and in two. -/
theorem Filter.coerce_list_canonical_of_ids :
    coerceList (.array [.string "3, 1,3", .null, .array [.number (.int 1), .string ",2"],
        .number (.int 1)]) =
      [.string "3", .string "1", .number (.int 1), .string "2"] ∧
    ∀ (grammar : Grammar) (validate : InputValidator),
      grammar.parse validate (Request.ofParameters
          [("sort", "id"), ("filter[id][in]", "3, 1,,2"), ("filter[id][neq]", "4")]).filters =
        grammar.parse validate (Request.ofParameters
          [("sort", "id"), ("filter[id][in][]", "3"), ("filter[id][in][]", " 1,"),
            ("filter[id][in][]", "2"), ("filter[id][neq]", "4")]).filters := by
  obtain ⟨-, hfirst, -, -, -, -, hparameters⟩ := coerce_list_canonical
    (.array [.string "3, 1,3", .null, .array [.number (.int 1), .string ",2"], .number (.int 1)])
  refine ⟨hfirst.trans rfl, fun grammar validate => ?_⟩
  exact hparameters grammar validate "id" "3" [" 1,", "2"] [("sort", "id")]
    [("filter[id][neq]", "4")] (by decide) (by decide)

end EntityGate
