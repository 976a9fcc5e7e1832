import EntityGate.Proofs.Request.Filters
import EntityGate.Proofs.Text.Blank

/-!
# Filter parameters

The key of a filter parameter names its field and its operator token in brackets: see
`parameter_key_of_filter`. What is collected for one field and operator token keeps its place and is
touched by the parameters of this field and token only, whatever other parameters stand around them:
see `foldl_list_parameters` and `foldl_other_parameters`.
-/

namespace EntityGate.Request

/-! ## Keys -/

/-- Each segment in brackets. -/
def bracketed (segments : List (List Char)) : List Char :=
  segments.flatMap fun segment => '[' :: (segment ++ [']'])

theorem bracketed_cons (segment : List Char) (rest : List (List Char)) :
    bracketed (segment :: rest) = '[' :: (segment ++ ']' :: bracketed rest) := by
  simp [bracketed]

/-- One segment is read off the start. -/
theorem bracket_tail_segment {segment : List Char} (h : ']' ∉ segment) (fuel : Nat)
    (rest : List Char) : bracketTail (fuel + 1) ('[' :: (segment ++ ']' :: rest)) =
      (bracketTail fuel rest).map (segment :: ·) := by
  rw [bracketTail, Text.cut_chars_append h]
  show (bracketTail fuel rest).bind (fun segments => some (segment :: segments)) = _
  cases bracketTail fuel rest <;> rfl

theorem bracket_tail_bracketed {segments : List (List Char)} {fuel : Nat}
    (h : ∀ segment ∈ segments, ']' ∉ segment) (hfuel : segments.length ≤ fuel) :
    bracketTail fuel (bracketed segments) = some segments := by
  induction segments generalizing fuel with
  | nil =>
      unfold bracketTail
      rfl
  | cons segment rest ih =>
      obtain ⟨fuel, rfl⟩ := Nat.exists_eq_add_of_le' hfuel
      have hrest : bracketTail (fuel + rest.length) (bracketed rest) = some rest :=
        ih (fun other hother => h other (List.mem_cons_of_mem _ hother)) (Nat.le_add_left _ _)
      rw [bracketed_cons, List.length_cons, ← Nat.add_assoc,
        bracket_tail_segment (h segment List.mem_cons_self), hrest, Option.map_some]

theorem length_le_bracketed (segments : List (List Char)) :
    segments.length ≤ (bracketed segments).length := by
  induction segments with
  | nil => exact Nat.le_refl _
  | cons segment rest ih =>
      simp only [bracketed, List.flatMap_cons, List.length_append, List.length_cons] at ih ⊢
      omega

/-- A key is read as its base and its segments in brackets. -/
theorem bracket_segments_bracketed {base : List Char} {segments : List (List Char)}
    (hbase : '[' ∉ base) (h : ∀ segment ∈ segments, ']' ∉ segment) (hfilled : segments ≠ []) :
    bracketSegments? (base ++ bracketed segments) = some (base, segments) := by
  have htest : ∀ char ∈ base, (char != '[') = true := fun char hchar =>
    bne_iff_ne.mpr fun heq => hbase (heq ▸ hchar)
  obtain ⟨tail, htail⟩ : ∃ tail, bracketed segments = '[' :: tail := by
    obtain ⟨first, rest, rfl⟩ := List.exists_cons_of_ne_nil hfilled
    exact ⟨_, rfl⟩
  have hsegments := bracket_tail_bracketed h (length_le_bracketed segments)
  rw [htail] at hsegments ⊢
  simp only [bracketSegments?, List.takeWhile_append_of_pos htest,
    List.dropWhile_append_of_pos htest, List.takeWhile_cons, List.dropWhile_cons, bne_self_eq_false,
    Bool.false_eq_true, if_false, List.append_nil, hsegments, Option.map_some]

/-- The key of a filter parameter, with an empty last pair of brackets for one of a list. -/
def filterParameter (field token : String) (isList : Bool) : String :=
  "filter[" ++ field ++ "][" ++ token ++ (if isList then "][]" else "]")

/-- A parameter is taken for the filter that its key names. -/
theorem parameter_key_of_filter {field token : String} (hfield : ']' ∉ field.toList)
    (htoken : ']' ∉ token.toList) (hfilled : token ≠ "") (isList : Bool) :
    parameterKey (filterParameter field token isList) = .filter ⟨field, token, isList⟩ := by
  let segments := field.toList :: token.toList :: if isList then [[]] else []
  have hkey :
      (filterParameter field token isList).toList = "filter".toList ++ bracketed segments := by
    cases isList <;> simp [filterParameter, bracketed, segments]
  have hsegments : bracketSegments? ("filter".toList ++ bracketed segments) =
      some ("filter".toList, segments) := by
    refine bracket_segments_bracketed (by decide) ?_ (List.cons_ne_nil _ _)
    cases isList <;> simp [segments, hfield, htoken]
  have hfilter : filterKey? segments = some ⟨field, token, isList⟩ := by
    -- An empty second segment would be the mark of a list.
    obtain ⟨first, rest, hchars⟩ := List.exists_cons_of_ne_nil
      (show token.toList ≠ [] by simpa using hfilled)
    have hread : String.ofList (first :: rest) = token := by rw [← hchars, String.ofList_toList]
    cases isList <;> simp [filterKey?, segments, hchars, hread]
  simp only [parameterKey, hkey, hsegments, if_true, hfilter]

/-! ## Collecting -/

/-- The parameter is a filter on the field with the operator token. -/
def Asks (parameter : String × String) (field token : String) : Prop :=
  ∃ isList, parameterKey parameter.1 = .filter ⟨field, token, isList⟩

instance (parameter : String × String) (field token : String) :
    Decidable (Asks parameter field token) :=
  inferInstanceAs (Decidable (∃ _, _))

/-- A value goes to what was collected for its field and operator, or to the end. -/
theorem collect_append (key : FilterKey) (value : Json) (collected others : List CollectedFilter) :
    collect key value (collected ++ others) =
      if (key.field, key.token) ∈ collectedKeys collected then collect key value collected ++ others
      else collected ++ collect key value others := by
  induction collected with
  | nil => simp [collectedKeys]
  | cons entry rest ih =>
      by_cases hsame : entry.field = key.field ∧ entry.token = key.token
      · simp [collectedKeys, collect, hsame]
      · have hkey : (entry.field == key.field && entry.token == key.token) = false := by
          simpa using hsame
        have hpair : ¬(key.field, key.token) = (entry.field, entry.token) := by
          simp only [Prod.mk.injEq, not_and]
          exact fun hfield htoken => hsame ⟨hfield.symm, htoken.symm⟩
        have hmem : (key.field, key.token) ∈ collectedKeys (entry :: rest) ↔
            (key.field, key.token) ∈ collectedKeys rest :=
          List.mem_cons.trans (or_iff_right hpair)
        simp only [List.cons_append, collect, hkey, Bool.false_eq_true, if_false, ih, hmem]
        split <;> rfl

/-- A parameter of another field or operator leaves what was collected for this one lacking. -/
theorem with_parameter_keys {field token : String} {parameter : String × String}
    (hother : ¬Asks parameter field token) {state : Request × List CollectedFilter}
    (hlacks : (field, token) ∉ collectedKeys state.2) :
    (field, token) ∉ collectedKeys (withParameter state parameter).2 := by
  obtain ⟨request, collected⟩ := state
  unfold withParameter
  cases hkey : parameterKey parameter.1 with
  | filter key =>
      have hne : (field, token) ≠ (key.field, key.token) := by
        intro heq
        cases heq
        exact hother ⟨key.isList, hkey⟩
      simp only [collected_keys_collect]
      split
      · exact hlacks
      · simpa [hne] using hlacks
  | malformedFilter => exact hlacks
  | plain => exact hlacks

theorem foldl_parameters_keys {field token : String} {parameters : List (String × String)}
    (hothers : ∀ parameter ∈ parameters, ¬Asks parameter field token)
    {state : Request × List CollectedFilter} (hlacks : (field, token) ∉ collectedKeys state.2) :
    (field, token) ∉ collectedKeys (parameters.foldl withParameter state).2 := by
  induction parameters generalizing state with
  | nil => exact hlacks
  | cons parameter rest ih =>
      rw [List.forall_mem_cons] at hothers
      exact ih hothers.2 (with_parameter_keys hothers.1 hlacks)

/-- A filter parameter is collected. -/
theorem with_filter_parameter {name : String} {key : FilterKey}
    (hname : parameterKey name = .filter key) (text : String) (request : Request)
    (collected : List CollectedFilter) :
    withParameter (request, collected) (name, text) =
      (request, collect key (.string text) collected) := by
  simp only [withParameter, hname]

/-- What nothing was collected for yet goes to the end. -/
theorem collect_lacking {key : FilterKey} {collected : List CollectedFilter}
    (hlacks : (key.field, key.token) ∉ collectedKeys collected) (value : Json) :
    collect key value collected = collected ++ [⟨key.field, key.token, [value], key.isList⟩] := by
  have h := collect_append key value collected []
  rwa [List.append_nil, if_neg hlacks] at h

/-- Parameters of a list that follow each other are collected as one. -/
theorem foldl_list_parameters {name field token : String}
    (hname : parameterKey name = .filter ⟨field, token, true⟩) (request : Request)
    {collected : List CollectedFilter} (hlacks : (field, token) ∉ collectedKeys collected)
    (first : String) (rest : List String) :
    ((first :: rest).map fun text => (name, text)).foldl withParameter (request, collected) =
      (request, collected ++ [⟨field, token, (first :: rest).map .string, true⟩]) := by
  have hmore (values : List Json) :
      (rest.map fun text => (name, text)).foldl withParameter
          (request, collected ++ [⟨field, token, values, true⟩]) =
        (request, collected ++ [⟨field, token, values ++ rest.map .string, true⟩]) := by
    induction rest generalizing values with
    | nil => simp
    | cons text rest ih =>
        rw [List.map_cons, List.foldl_cons, with_filter_parameter hname, collect_append,
          if_neg hlacks, List.map_cons, List.append_cons values]
        simpa only [collect, beq_self_eq_true, Bool.and_self, if_true] using
          ih (values ++ [.string text])
  rw [List.map_cons, List.foldl_cons, with_filter_parameter hname, collect_lacking hlacks]
  exact hmore [.string first]

/-- Parameters of other fields and operators leave alone what was collected for this one, and do
with the others the same whatever it is. -/
theorem foldl_other_parameters {field token : String} {parameters : List (String × String)}
    (hothers : ∀ parameter ∈ parameters, ¬Asks parameter field token) (request : Request)
    (before after : List CollectedFilter) :
    ∃ request' before' after', ∀ entry : CollectedFilter, entry.field = field →
      entry.token = token → parameters.foldl withParameter (request, before ++ entry :: after) =
        (request', before' ++ entry :: after') := by
  induction parameters generalizing request before after with
  | nil => exact ⟨request, before, after, fun _ _ _ => rfl⟩
  | cons parameter rest ih =>
      rw [List.forall_mem_cons] at hothers
      have hrest := ih hothers.2
      obtain ⟨name, text⟩ := parameter
      cases hkey : parameterKey name with
      | malformedFilter => simpa [withParameter, hkey] using hrest request before after
      | plain => simpa [withParameter, hkey] using hrest _ before after
      | filter key =>
          have hne : ∀ entry : CollectedFilter, entry.field = field → entry.token = token →
              (entry.field == key.field && entry.token == key.token) = false := by
            intro entry hfield htoken
            rw [← Bool.not_eq_true, Bool.and_eq_true, beq_iff_eq, beq_iff_eq]
            rintro ⟨hfield', htoken'⟩
            refine hothers.1 ⟨key.isList, ?_⟩
            rw [hkey, ← hfield, ← htoken, hfield', htoken']
          -- The value goes to what stands before the entry, or else behind it.
          by_cases hmem : (key.field, key.token) ∈ collectedKeys before
          · obtain ⟨request', before', after', h⟩ :=
              hrest request (collect key (.string text) before) after
            refine ⟨request', before', after', fun entry hfield htoken => ?_⟩
            rw [List.foldl_cons, with_filter_parameter hkey, collect_append, if_pos hmem]
            exact h entry hfield htoken
          · obtain ⟨request', before', after', h⟩ :=
              hrest request before (collect key (.string text) after)
            refine ⟨request', before', after', fun entry hfield htoken => ?_⟩
            rw [List.foldl_cons, with_filter_parameter hkey, collect_append, if_neg hmem, collect,
              hne entry hfield htoken]
            exact h entry hfield htoken

end EntityGate.Request
