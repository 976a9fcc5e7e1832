import EntityGate.Proofs.Json.Values
import EntityGate.Proofs.Request.Collected
import Mathlib.Tactic.SplitIfs

/-!
# Filters of decoded parameters

The filters that decoded parameters come to are well formed, and their JSON form is faithful: it is
read back as them, see `RawFilters.of_json_to_json`, and so is the text of a fingerprint as the
fingerprint, see `reads_back_fingerprint`. `parameters_make_filters` puts this together with the
order of fields and tokens and with the values.
-/

namespace EntityGate

namespace RawFilters

/-! ## The JSON form read back -/

theorem push_entry_new {field : String} {before : List (String × List (String × Json))}
    (h : field ∉ before.map Prod.fst) (operator : String × Json) :
    pushEntry field operator before = before ++ [(field, [operator])] := by
  induction before with
  | nil => rfl
  | cons first rest ih =>
      rw [List.map_cons, List.mem_cons, not_or] at h
      rw [pushEntry, if_neg (by simpa using Ne.symm h.1), ih h.2, List.cons_append]

theorem push_entry_last {field : String} {before : List (String × List (String × Json))}
    (h : field ∉ before.map Prod.fst) (operators : List (String × Json))
    (operator : String × Json) : pushEntry field operator (before ++ [(field, operators)]) =
      before ++ [(field, operators ++ [operator])] := by
  induction before with
  | nil => simp [pushEntry]
  | cons first rest ih =>
      rw [List.map_cons, List.mem_cons, not_or] at h
      rw [List.cons_append, pushEntry, if_neg (by simpa using Ne.symm h.1), ih h.2,
        List.cons_append]

/-- An object under a field that is not there yet is read as its operators. -/
theorem push_json_new {filters : RawFilters} {field : String}
    (h : field ∉ filters.entries.map Prod.fst) {operators : List (String × Json)}
    (hfilled : operators ≠ []) : (filters.pushJson field (.object operators)).entries =
      filters.entries ++ [(field, operators)] := by
  obtain ⟨first, rest, rfl⟩ := List.exists_cons_of_ne_nil hfilled
  have hrest (list pushed : List (String × Json)) (read : RawFilters)
      (hread : read.entries = filters.entries ++ [(field, pushed)]) :
      (list.foldl (fun filters operator => filters.push field operator.1 operator.2)
        read).entries = filters.entries ++ [(field, pushed ++ list)] := by
    induction list generalizing pushed read with
    | nil => rw [List.foldl_nil, hread, List.append_nil]
    | cons operator others ih =>
        have hnext : (read.push field operator.1 operator.2).entries =
            filters.entries ++ [(field, pushed ++ [operator])] := by
          rw [entries_push, hread, push_entry_last h]
        rw [List.foldl_cons, ih _ _ hnext, List.append_assoc, List.singleton_append]
  rw [pushJson, List.foldl_cons]
  exact hrest rest [first] _ (push_entry_new h first)

/-- Fields with operators that are read behind others stand behind them. -/
theorem foldl_push_json {entries : List (String × List (String × Json))}
    (hfilled : ∀ entry ∈ entries, entry.2 ≠ []) {read : RawFilters}
    (hnodup : ((read.entries ++ entries).map Prod.fst).Nodup) :
    ((entries.map fun entry => (entry.1, Json.object entry.2)).foldl
      (fun filters field => filters.pushJson field.1 field.2) read).entries =
        read.entries ++ entries := by
  induction entries generalizing read with
  | nil => rw [List.append_nil, List.map_nil, List.foldl_nil]
  | cons entry rest ih =>
      obtain ⟨hentry, hrest⟩ := List.forall_mem_cons.mp hfilled
      have hnew : entry.1 ∉ read.entries.map Prod.fst := by
        rw [List.map_append, List.nodup_append] at hnodup
        exact fun hmem => hnodup.2.2 _ hmem entry.1 List.mem_cons_self rfl
      rw [List.append_cons, ← push_json_new hnew hentry] at hnodup ⊢
      exact ih hrest hnodup

/-- Distinct filters none of whose fields is without operators are read back from their JSON form.
-/
theorem of_json_to_json {filters : RawFilters} (h : filters.Distinct)
    (hfilled : ∀ entry ∈ filters.entries, entry.2 ≠ []) : ofJson filters.toJson = filters := by
  rw [to_json_of_distinct h]
  exact eq_of_entries (foldl_push_json hfilled filters.nodup)

end RawFilters

namespace Request

/-- Every field of the filters has an operator. -/
theorem of_parameters_filled (parameters : List (String × String)) :
    ∀ entry ∈ (ofParameters parameters).filters.entries, entry.2 ≠ [] := by
  intro entry hentry
  rw [entries_of_parameters] at hentry
  obtain ⟨field, hfield, rfl⟩ := List.mem_map.mp hentry
  obtain ⟨found, hfound, rfl⟩ := List.mem_map.mp (List.mem_eraseDups.mp hfield)
  exact List.ne_nil_of_mem (List.mem_map_of_mem
    (List.mem_filter.mpr ⟨hfound, beq_self_eq_true found.field⟩))

/-! ## Keys with too many segments -/

theorem filter_key_eq_none {segments : List (List Char)} (hmore : segments.drop 2 ≠ [])
    (hnamed : segments.drop 2 ≠ [[]]) : filterKey? segments = none := by
  match segments with
  | [] | [_] | [_, _] => exact (hmore rfl).elim
  | [_, _, []] => exact (hnamed rfl).elim
  | [_, _, _ :: _] => simp [filterKey?]
  | _ :: _ :: _ :: _ :: _ => simp [filterKey?]

/-- A key with more than the segments of a field and a token, an empty one for lists aside, is
malformed. -/
theorem parameter_key_malformed {segments : List (List Char)}
    (hsegments : ∀ segment ∈ segments, ']' ∉ segment) (hmore : segments.drop 2 ≠ [])
    (hnamed : segments.drop 2 ≠ [[]]) :
    parameterKey (String.ofList ("filter".toList ++ bracketed segments)) = .malformedFilter := by
  have hfilled : segments ≠ [] := by
    rintro rfl
    exact hmore rfl
  rw [parameterKey, String.toList_ofList,
    bracket_segments_bracketed (by decide) hsegments hfilled]
  simp only [if_true, filter_key_eq_none hmore hnamed]

/-- A malformed parameter adds nothing to the request. -/
theorem of_parameters_malformed {name : String} (h : parameterKey name = .malformedFilter)
    (before after : List (String × String)) (text : String) :
    ofParameters (before ++ (name, text) :: after) = ofParameters (before ++ after) := by
  have hskip (state : Request × List CollectedFilter) :
      withParameter state (name, text) = state := by
    obtain ⟨request, collected⟩ := state
    simp only [withParameter, h]
  unfold ofParameters
  rw [List.foldl_append, List.foldl_append, List.foldl_cons, hskip]

end Request

/-! ## Fingerprints -/

theorem Numeral.signed_bounds {chars : List Char} {value : Int}
    (h : signed64? chars = some value) : -(2 ^ 63) ≤ value ∧ value < 2 ^ 63 := by
  unfold signed64? at h
  obtain ⟨magnitude, -, h⟩ := Option.bind_eq_some_iff.mp h
  split_ifs at h with hnegative hle hlt
  · obtain rfl := Option.some.inj h
    omega
  · obtain rfl := Option.some.inj h
    omega

theorem Numeral.unsigned_lt {chars : List Char} {value : Nat}
    (h : unsigned64? chars = some value) : value < 2 ^ 64 := by
  unfold unsigned64? unsignedBelow? at h
  obtain ⟨magnitude, -, h⟩ := Option.bind_eq_some_iff.mp h
  split at h
  · next hlt =>
    cases h
    exact hlt
  · cases h

namespace Request

/-- The numbers of a request are integers of 64 bits. -/
structure Bounded (request : Request) : Prop where
  perPage : ∀ value, request.perPage = some value → -(2 ^ 63) ≤ value ∧ value < 2 ^ 63
  page : ∀ value, request.page = some value → value < 2 ^ 64

theorem Bounded.with_control {request : Request} (h : request.Bounded) (key value : String) :
    (request.withControl key value).Bounded := by
  unfold withControl
  split
  case h_2 => exact ⟨fun _ => Numeral.signed_bounds, h.page⟩
  case h_3 => exact ⟨h.perPage, fun _ => Numeral.unsigned_lt⟩
  all_goals exact ⟨h.perPage, h.page⟩

/-- The numbers in a request of decoded parameters are integers of 64 bits. -/
theorem of_parameters_bounded (parameters : List (String × String)) :
    (ofParameters parameters).Bounded := by
  have hfold (state : Request × List CollectedFilter) (h : state.1.Bounded) :
      (parameters.foldl withParameter state).1.Bounded := by
    induction parameters generalizing state with
    | nil => exact h
    | cons parameter rest ih =>
        obtain ⟨request, collected⟩ := state
        refine ih _ ?_
        unfold withParameter
        dsimp only
        split
        · exact h
        · exact h
        · exact h.with_control _ _
  have h := hfold ({}, []) ⟨nofun, nofun⟩
  exact ⟨h.perPage, h.page⟩

/-- The texts that filters are asked for with are read back, in a list or alone. -/
theorem reads_back_value_of (asks : List (FilterKey × String)) :
    Json.ReadsBack 1 (valueOf asks) := by
  have hvalues : ∀ value ∈ (gather asks).1, Json.ReadsBack 0 value := by
    intro value hvalue
    obtain ⟨text, rfl⟩ := gather_strings asks value hvalue
    exact Json.reads_back_string text
  unfold valueOf
  split
  · exact Json.reads_back_array hvalues
  · rw [List.getLastD_eq_getLast?]
    cases hlast : (gather asks).1.getLast? with
    | none => exact Json.reads_back_null.mono (Nat.zero_le 1)
    | some value => exact (hvalues value (List.mem_of_getLast? hlast)).mono (Nat.zero_le 1)

theorem reads_back_filters (parameters : List (String × String)) :
    Json.ReadsBack 3 (ofParameters parameters).filters.toJson := by
  rw [RawFilters.to_json_of_distinct (of_parameters_distinct parameters)]
  refine Json.reads_back_object fun field hfield => ?_
  obtain ⟨entry, hentry, rfl⟩ := List.mem_map.mp hfield
  refine Json.reads_back_object fun written hwritten => ?_
  rw [entries_of_parameters] at hentry
  obtain ⟨name, -, rfl⟩ := List.mem_map.mp hentry
  obtain ⟨found, hfound, rfl⟩ := List.mem_map.mp hwritten
  have hmem := (List.mem_filter.mp hfound).1
  rw [collected_eq] at hmem
  show Json.ReadsBack 1 found.value
  rw [collected_value hmem]
  exact reads_back_value_of _

end Request

namespace Json

theorem reads_back_optional (text : Option String) : ReadsBack 0 (ofString? text) := by
  cases text with
  | none => exact reads_back_null
  | some text => exact reads_back_string text

/-- Values that are read back are written differently if they differ. -/
theorem compact_injective {levels : Nat} {first second : Json} (hfirst : ReadsBack levels first)
    (hsecond : ReadsBack levels second) (hlevels : levels ≤ maxNesting)
    (h : first.compact = second.compact) : first = second := by
  have hread := read_written hfirst hlevels
  rw [h, read_written hsecond hlevels] at hread
  exact (Option.some.inj hread).symm

end Json

namespace Request

/-- The request of decoded parameters with the headers that come with them. -/
def ofParts (parameters : List (String × String)) (method : String)
    (headers : List (String × String)) : Request :=
  (ofParameters parameters).withHeaders method headers

/-- The text of a fingerprint is read as the fingerprint. -/
theorem reads_back_fingerprint (parameters : List (String × String)) (method : String)
    (headers : List (String × String)) :
    Json.ReadsBack 4 (ofParts parameters method headers).fingerprint := by
  have hbounded := of_parameters_bounded parameters
  have htext (text : Option String) : Json.ReadsBack 3 (Json.ofString? text) :=
    (Json.reads_back_optional text).mono (Nat.zero_le 3)
  have hperPage :
      Json.ReadsBack 3 (((ofParameters parameters).perPage.map Json.ofInt).getD .null) := by
    cases hvalue : (ofParameters parameters).perPage with
    | none => exact Json.reads_back_null.mono (Nat.zero_le 3)
    | some value =>
        have hrange := hbounded.perPage value hvalue
        exact (Json.reads_back_number
          (JsonNumber.reads_back_int hrange.1 (by omega))).mono (Nat.zero_le 3)
  have hpage : Json.ReadsBack 3 (Json.ofNat? (ofParameters parameters).page) := by
    cases hvalue : (ofParameters parameters).page with
    | none => exact Json.reads_back_null.mono (Nat.zero_le 3)
    | some value =>
        have hrange := hbounded.page value hvalue
        exact (Json.reads_back_number
          (JsonNumber.reads_back_int (by omega) (by omega))).mono (Nat.zero_le 3)
  have hparams : Json.ReadsBack 1 (.object ((ofParameters parameters).params.entries.map
      fun entry => (entry.1, .string entry.2))) := by
    refine Json.reads_back_object fun field hfield => ?_
    obtain ⟨entry, -, rfl⟩ := List.mem_map.mp hfield
    exact Json.reads_back_string entry.2
  refine Json.reads_back_object ?_
  simp only [List.forall_mem_cons]
  exact ⟨htext _, reads_back_filters parameters, htext _, hperPage, hpage, htext _, htext _,
    hparams.mono (by decide), nofun⟩

/-- A parameter that is not followed by another one for its field and token, and not mixed with the
list form, has its text for a value. -/
theorem value_at_of_last {before after : List (String × String)} {name text field token : String}
    (hkey : parameterKey name = .filter ⟨field, token, false⟩)
    (hafter : ∀ parameter ∈ after, ¬Asks parameter field token)
    (hbefore : ∀ parameter ∈ before, parameterKey parameter.1 ≠ .filter ⟨field, token, true⟩) :
    (ofParameters (before ++ (name, text) :: after)).filters.valueAt? field token =
      some (.string text) := by
  have hasked : asked (before ++ (name, text) :: after) =
      asked before ++ (⟨field, token, false⟩, text) :: asked after := by
    simp [asked, List.filterMap_append, hkey]
  -- Nothing that comes later is for the field and the token.
  have hlater : asksFor (asked after) (field, token) = [] := by
    refine List.eq_nil_iff_forall_not_mem.mpr fun ask hask => ?_
    obtain ⟨parameter, hparameter, hfound, -⟩ := mem_asks_for.mp hask
    exact hafter parameter hparameter ⟨_, hfound⟩
  have hasks : asksFor (asked (before ++ (name, text) :: after)) (field, token) =
      asksFor (asked before) (field, token) ++ [(⟨field, token, false⟩, text)] := by
    rw [hasked, List.append_cons, asksFor, List.filter_append, ← asksFor, ← asksFor, hlater,
      List.append_nil, asks_for_concat]
    exact if_pos rfl
  rw [value_at_of_parameters, hasks, if_neg (List.append_ne_nil_of_right_ne_nil _ (by simp)),
    value_of_last]
  intro ask hask
  rcases List.mem_append.mp hask with hask | hask
  · obtain ⟨parameter, hparameter, hfound, -⟩ := mem_asks_for.mp hask
    rw [← Bool.not_eq_true]
    intro hlist
    rw [hlist] at hfound
    exact hbefore parameter hparameter hfound
  · rw [List.mem_singleton.mp hask]

/-- Parameters for a field and a token that all have the list form have all their texts for a
value. -/
theorem value_at_of_lists {parameters : List (String × String)} {field token : String}
    (hasks : ∃ parameter ∈ parameters, Asks parameter field token)
    (hlists : ∀ parameter ∈ parameters, parameterKey parameter.1 ≠ .filter ⟨field, token, false⟩) :
    (ofParameters parameters).filters.valueAt? field token =
      some (.array ((parameters.filter fun parameter =>
        Asks parameter field token).map fun parameter => .string parameter.2)) := by
  have hfilled : asksFor (asked parameters) (field, token) ≠ [] := by
    obtain ⟨parameter, hparameter, isList, hkey⟩ := hasks
    have hask : ((⟨field, token, isList⟩, parameter.2) : FilterKey × String) ∈
        asksFor (asked parameters) (field, token) :=
      mem_asks_for.mpr ⟨parameter, hparameter, hkey, rfl⟩
    exact List.ne_nil_of_mem hask
  have hall : ∀ ask ∈ asksFor (asked parameters) (field, token), ask.1.isList = true := by
    intro ask hask
    obtain ⟨parameter, hparameter, hfound, -⟩ := mem_asks_for.mp hask
    rw [← Bool.not_eq_false]
    intro hscalar
    rw [hscalar] at hfound
    exact hlists parameter hparameter hfound
  have htexts := congrArg (List.map Json.string) (texts_asked_for parameters field token)
  rw [List.map_map, List.map_map] at htexts
  rw [value_at_of_parameters, if_neg hfilled, value_of_lists hfilled hall]
  exact congrArg (fun values => some (Json.array values)) htexts

/-- Decoded parameters come to well-formed filters. No field occurs twice and no operator token
twice under a field; both stand in the order in which they are first asked for. Where a field and a
token are never asked for as a list, the last text counts, and where they are always, all texts do,
in order. Keys with too many segments add nothing to the request. The JSON form of the filters is
read back as them, and requests whose fingerprints are written alike have the same filters, whatever
headers come with them. -/
theorem parameters_make_filters (parameters : List (String × String)) :
    let filters := (ofParameters parameters).filters
    filters.Distinct ∧
    filters.entries.map Prod.fst =
      ((asked parameters).map fun ask => ask.1.field).eraseDups ∧
    (∀ entry ∈ filters.entries, entry.2.map Prod.fst =
      (((asked parameters).filter fun ask => ask.1.field == entry.1).map
        fun ask => ask.1.token).eraseDups) ∧
    (∀ before name text after field token, parameters = before ++ (name, text) :: after →
      parameterKey name = .filter ⟨field, token, false⟩ →
      (∀ parameter ∈ after, ¬Asks parameter field token) →
      (∀ parameter ∈ before, parameterKey parameter.1 ≠ .filter ⟨field, token, true⟩) →
      filters.valueAt? field token = some (.string text)) ∧
    (∀ field token, (∃ parameter ∈ parameters, Asks parameter field token) →
      (∀ parameter ∈ parameters, parameterKey parameter.1 ≠ .filter ⟨field, token, false⟩) →
      filters.valueAt? field token = some (.array ((parameters.filter fun parameter =>
        Asks parameter field token).map fun parameter => .string parameter.2))) ∧
    (∀ before segments text after,
      parameters =
        before ++ (String.ofList ("filter".toList ++ bracketed segments), text) :: after →
      (∀ segment ∈ segments, ']' ∉ segment) → segments.drop 2 ≠ [] → segments.drop 2 ≠ [[]] →
      ofParameters parameters = ofParameters (before ++ after)) ∧
    RawFilters.ofJson filters.toJson = filters ∧
    ∀ other method headers method' headers',
      (ofParts parameters method headers).fingerprint.compact =
        (ofParts other method' headers').fingerprint.compact →
      filters = (ofParameters other).filters := by
  refine ⟨of_parameters_distinct parameters, fields_of_parameters parameters,
    tokens_of_parameters parameters, ?_, fun field token => value_at_of_lists, ?_,
    RawFilters.of_json_to_json (of_parameters_distinct parameters)
      (of_parameters_filled parameters), ?_⟩
  · rintro before name text after field token rfl hkey hafter hbefore
    exact value_at_of_last hkey hafter hbefore
  · rintro before segments text after rfl hsegments hmore hnamed
    exact of_parameters_malformed (parameter_key_malformed hsegments hmore hnamed) before after text
  · intro other method headers method' headers' h
    -- Equal texts are read as one fingerprint, whose second field is the form of the filters.
    have hfingerprints := Json.compact_injective
      (reads_back_fingerprint parameters method headers)
      (reads_back_fingerprint other method' headers') (by decide) h
    have hwritten : (ofParameters parameters).filters.toJson =
        (ofParameters other).filters.toJson := by
      have hfields := Json.object.inj hfingerprints
      simp only [List.cons.injEq, Prod.mk.injEq, true_and] at hfields
      exact hfields.2.1
    exact RawFilters.to_json_injective (of_parameters_distinct parameters)
      (of_parameters_distinct other) hwritten

/-- Parameters with a status given twice, a list in two parts, a key with too many segments and a
second operator on a field. -/
def mixedParameters : List (String × String) :=
  [("filter[status]", "draft"), ("filter[id][in][]", "1"), ("sort", "id"),
    ("filter[id][in][]", "2"), ("filter[id][in][no]", "3"), ("filter[status]", "published"),
    ("filter[id][gt]", "0")]

/-- The last status and both identifiers count, the malformed key does not, and the fingerprint
tells the filters from none. -/
theorem parameters_make_filters_of_mixed :
    let filters := (ofParameters mixedParameters).filters
    filters.entries.map Prod.fst = ["status", "id"] ∧
      filters.valueAt? "status" "eq" = some (.string "published") ∧
      filters.valueAt? "id" "in" = some (.array [.string "1", .string "2"]) ∧
      RawFilters.ofJson filters.toJson = filters ∧
      (ofParts mixedParameters "GET" []).fingerprint.compact ≠
        (ofParts [] "GET" []).fingerprint.compact := by
  obtain ⟨-, hfields, -, hlast, hlists, -, hread, hfingerprints⟩ :=
    parameters_make_filters mixedParameters
  have hstatus := hlast
    [("filter[status]", "draft"), ("filter[id][in][]", "1"), ("sort", "id"),
      ("filter[id][in][]", "2"), ("filter[id][in][no]", "3")]
    "filter[status]" "published" [("filter[id][gt]", "0")] "status" "eq" rfl (by decide +kernel)
    (by decide +kernel) (by decide +kernel)
  have hids := hlists "id" "in" (by decide +kernel) (by decide +kernel)
  have hparameters : mixedParameters.filter (fun parameter => Asks parameter "id" "in") =
      [("filter[id][in][]", "1"), ("filter[id][in][]", "2")] := by decide +kernel
  rw [hparameters] at hids
  refine ⟨hfields.trans (by decide +kernel), hstatus, hids, hread, fun h => ?_⟩
  have hnone := hfingerprints [] "GET" [] "GET" [] h
  rw [hnone] at hstatus
  cases hstatus

end Request

end EntityGate
