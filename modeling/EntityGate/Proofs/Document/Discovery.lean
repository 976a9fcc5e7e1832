import EntityGate.Document.Endpoints
import EntityGate.Proofs.Gate.Narrowing
import EntityGate.Proofs.Gate.OperatorChanges
import EntityGate.Proofs.Request.Encounters

/-!
# What a caller may discover about filters

The metadata of a gate lists operators under the names of its filters, and the parser of filters
decides by itself which fields it refuses and which operators it discards. The two agree on the
names that are safe identifiers: see `listed_operators_usable`. A gate may be built with a filter of
another name, which is listed and can never be used.
-/

namespace EntityGate

namespace Filter

theorem encounters_split {filters : RawFilters}
    {before after : List (String × List (String × Json))} {field : String}
    {operators : List (String × Json)}
    (h : filters.entries = before ++ (field, operators) :: after) : encounters filters =
      before.flatMap encountersOf ++
        (encountersOf (field, operators) ++ after.flatMap encountersOf) := by
  rw [encounters, h, List.flatMap_append, List.flatMap_cons]

namespace Grammar

variable {grammar : Grammar} {validate : InputValidator} {field : String}
  {operator : FilterOperator}

/-- The answer to filters on a field that may not be filtered on. -/
def notAllowed (field : String) : RequestError :=
  .invalidField ("filter." ++ field) ("Filtering by " ++ field ++ " is not allowed.")

/-- Filters are refused for being on the field, wherever it stands, unless something before it is
wrong already. -/
def Refuses (grammar : Grammar) (validate : InputValidator) (field : String) : Prop :=
  ∀ (filters earlier : RawFilters) operators after,
    filters.entries = earlier.entries ++ (field, operators) :: after →
      (∃ instructions, grammar.parse validate earlier = .ok instructions) →
        grammar.parse validate filters = .error (notAllowed field)

/-- The operator is dropped on the field: however it is written, with whatever value and wherever it
stands, filters are parsed as they are without it. -/
def Discards (grammar : Grammar) (validate : InputValidator) (field : String)
    (operator : FilterOperator) : Prop :=
  ∀ (filters others : RawFilters) token raw before first last after,
    FilterOperator.ofToken? token = some operator →
      filters.entries = before ++ (field, first ++ (token, raw) :: last) :: after →
      others.entries = before ++ (field, first ++ last) :: after →
        grammar.parse validate filters = grammar.parse validate others

/-- The operator on the field is used: however it is written and with whatever value, after filters
that are accepted it adds the instruction of its value, or the value is refused. -/
def Uses (grammar : Grammar) (validate : InputValidator) (field : String)
    (operator : FilterOperator) : Prop :=
  ∀ (filters earlier : RawFilters) token raw instructions,
    FilterOperator.ofToken? token = some operator →
      filters.entries = earlier.entries ++ [(field, [(token, raw)])] →
      grammar.parse validate earlier = .ok instructions →
        grammar.parse validate filters = (grammar.instruct validate ⟨field, operator, raw⟩).map
          fun instruction => instructions ++ [instruction]

theorem answer_field_of_allows (h : grammar.Allows field) :
    grammar.answer validate (.field field) = .ok [] :=
  if_pos (Bool.and_eq_true_iff.mpr h)

theorem answer_field_of_not_allows (h : ¬ grammar.Allows field) :
    grammar.answer validate (.field field) = .error (notAllowed field) :=
  if_neg fun hallowed => h (Bool.and_eq_true_iff.mp hallowed)

/-- A field that may not be filtered on is refused after everything before it was accepted. -/
theorem parse_of_not_allows (h : ¬ grammar.Allows field) {filters : RawFilters}
    {before after : List (String × List (String × Json))} {operators : List (String × Json)}
    (hfilters : filters.entries = before ++ (field, operators) :: after) :
    grammar.parse validate filters =
      (grammar.parseFields validate before >>= fun _ => .error (notAllowed field)) := by
  rw [parse_eq, parse_fields_eq, encounters_split hfilters, List.mapM_append, encountersOf,
    List.cons_append, List.mapM_cons, answer_field_of_not_allows h]
  cases (before.flatMap encountersOf).mapM (grammar.answer validate) <;> rfl

/-- The field without any operator. -/
def bareField (field : String) : RawFilters := ⟨[(field, [])], List.pairwise_singleton ..⟩

/-- A field that may be filtered on is accepted. -/
theorem parse_field_of_allows (h : grammar.Allows field) :
    grammar.parse validate (bareField field) = .ok [] := by
  rw [parse_eq]
  show Except.map _ ([.field field].mapM (grammar.answer validate)) = _
  rw [List.mapM_cons, answer_field_of_allows h]
  rfl

/-- Exactly the fields that may not be filtered on are refused. -/
theorem refuses_iff : grammar.Refuses validate field ↔ ¬ grammar.Allows field := by
  constructor
  · intro hrefuses hallowed
    -- The field alone, without any operator, tells the two apart.
    have hrefused := hrefuses (bareField field) .empty [] [] rfl ⟨[], rfl⟩
    rw [parse_field_of_allows hallowed] at hrefused
    cases hrefused
  · rintro h filters earlier operators after hfilters ⟨instructions, hearlier⟩
    have hbefore : grammar.parseFields validate earlier.entries = .ok instructions := hearlier
    rw [parse_of_not_allows h hfilters, hbefore]
    rfl

theorem live_operator_of_token {token : String}
    (h : FilterOperator.ofToken? token = some operator) :
    grammar.liveOperator? field token =
      if grammar.permits field operator then some operator else none := by
  rw [liveOperator?, h, Option.filter_some]

/-- Exactly the operators that are not permitted on a field are dropped. On a field that is refused
nothing is left to be dropped. -/
theorem discards_iff : grammar.Discards validate field operator ↔
    (grammar.Allows field → grammar.permits field operator = false) := by
  constructor
  · intro hdiscards hallowed
    -- The operator alone on its field, in its own spelling, must come to no instruction.
    have hdropped := hdiscards (.push .empty field operator.token .null) (bareField field)
      operator.token .null [] [] [] [] (Changelog.Item.of_token_token operator) rfl rfl
    rw [parse_field_of_allows hallowed, parse_single_eq_nil_iff hallowed.1 hallowed.2,
      live_operator_of_token (Changelog.Item.of_token_token operator)] at hdropped
    simpa using hdropped
  · intro h filters others token raw before first last after htoken hfilters hothers
    by_cases hallowed : grammar.Allows field
    · have hdead : grammar.counts (.pair field token raw) = false := by
        rw [counts, live_operator_of_token htoken, h hallowed]
        rfl
      refine parse_eq_of_counting ?_
      simp [encounters_split hfilters, encounters_split hothers, encountersOf, List.filter_cons,
        hdead]
    · rw [parse_of_not_allows hallowed hfilters, parse_of_not_allows hallowed hothers]

/-- An operator that is permitted on a field that may be filtered on is used. -/
theorem uses_of_permits (hallowed : grammar.Allows field)
    (hpermits : grammar.permits field operator = true) : grammar.Uses validate field operator := by
  intro filters earlier token raw instructions htoken hfilters hearlier
  have hanswer : grammar.answer validate (.pair field token raw) =
      (grammar.instruct validate ⟨field, operator, raw⟩).map fun instruction => [instruction] := by
    refine answer_of_live ?_
    rw [live?, live_operator_of_token htoken, hpermits]
    rfl
  rw [parse_eq, encounters] at hearlier
  obtain ⟨parts, hparts, rfl⟩ := except_map_eq_ok_iff.mp hearlier
  rw [parse_eq, encounters_split hfilters, List.mapM_append, hparts]
  show Except.map _ ([Encounter.field field, .pair field token raw].mapM _ >>= _) = _
  rw [List.mapM_cons, List.mapM_cons, answer_field_of_allows hallowed, hanswer]
  cases grammar.instruct validate ⟨field, operator, raw⟩ with
  | error error => rfl
  | ok instruction => exact congrArg Except.ok List.flatten_append

end Grammar

end Filter

/-- Where there are filters, the declared fields are the filters. -/
theorem GateVersion.declares_iff_filter {version : GateVersion} {field : String}
    (h : version.filterFields ≠ []) :
    version.grammar.declares field = true ↔ field ∈ version.filterFields := by
  have hclosed : version.grammar.permissive = false := by
    rw [← Bool.not_eq_true]
    intro hopen
    obtain ⟨hruled, hcustom⟩ := Bool.and_eq_true_iff.mp hopen
    have hruled : version.filters.entries = [] := List.isEmpty_iff.mp hruled
    have hcustom : version.customFilters.keys = [] := List.isEmpty_iff.mp hcustom
    exact h (by simp [filterFields, RuleMap.keys, hruled, hcustom])
  refine ⟨fun hdeclares => ?_, declares_of_filter⟩
  rw [Filter.Grammar.declares_eq, hclosed, Bool.false_or, Bool.or_eq_true] at hdeclares
  by_cases hkey : field ∈ version.filters.keys
  · exact List.mem_append_left _ hkey
  · rcases hdeclares with hruled | hcustom
    · exact absurd (RuleMap.contains_iff_mem_keys.mp hruled) hkey
    · refine List.mem_append_right _ (List.mem_filter.mpr ⟨List.contains_iff_mem.mp hcustom, ?_⟩)
      simpa using hkey

namespace Document

variable {gate : Gate} {version : GateVersion} {field : String} {operator : FilterOperator}

/-- The operators that metadata list under a field. -/
def listedOperators? (metadata : Json) (field : String) : Option (List Json) := do
  let filters ← metadata.get? "filters"
  let listed ← filters.get? field
  let operators ← listed.get? "operators"
  operators.items?

/-- The metadata list the operator under the field. -/
def Lists (metadata : Json) (field : String) (operator : FilterOperator) : Prop :=
  ∃ operators, listedOperators? metadata field = some operators ∧
    .string operator.token ∈ operators

theorem permits_iff : version.grammar.permits field operator = true ↔
    ∀ permitted, version.operators.find? field = some permitted → operator ∈ permitted :=
  Filter.Grammar.permits_iff

theorem mem_operator_tokens : operator.token ∈ operatorTokens version field ↔
    version.grammar.permits field operator = true := by
  rw [operatorTokens, List.mem_map_of_injective fun _ _ => Changelog.token_injective, permits_iff]
  cases version.operators.find? field with
  | none =>
      have hcatalog : operator ∈ FilterOperator.catalog := by cases operator <;> decide
      simpa using hcatalog
  | some permitted => simp

/-- The metadata list the permitted operators under the filters, and nothing else. -/
theorem lists_iff : Lists (gateMetadata gate version) field operator ↔
    field ∈ version.filterFields ∧ version.grammar.permits field operator = true := by
  have hlisted : listedOperators? (gateMetadata gate version) field =
      ((version.filterFields.map fun name => (name, filterMetadata version name)).lookup
        field).bind fun listed => listed.get? "operators" >>= Json.items? := rfl
  rw [Lists, hlisted, lookup_map_names, ← mem_operator_tokens]
  split
  · rename_i hfilter
    have hoperators : ((filterMetadata version field).get? "operators").bind Json.items? =
        some ((operatorTokens version field).map .string) := rfl
    simp [hfilter, hoperators]
  · rename_i hfilter
    simp [hfilter]

/-- In a gate with filters, an operator that the metadata list under a field with a safe name is one
that the parser neither refuses with the field nor drops, and the other way round. Such an operator
is then used. -/
theorem listed_operators_usable (validate : InputValidator) (gate : Gate) {version : GateVersion}
    (h : version.filterFields ≠ []) (field : String) (operator : FilterOperator) :
    (Lists (gateMetadata gate version) field operator ∧ Identifier.isSafe field = true ↔
      ¬ version.grammar.Refuses validate field ∧
        ¬ version.grammar.Discards validate field operator) ∧
    (Lists (gateMetadata gate version) field operator ∧ Identifier.isSafe field = true →
      version.grammar.Uses validate field operator) := by
  have hallows : version.grammar.Allows field ↔
      Identifier.isSafe field = true ∧ field ∈ version.filterFields :=
    and_congr_right fun _ => GateVersion.declares_iff_filter h
  constructor
  · rw [lists_iff, Filter.Grammar.refuses_iff, Filter.Grammar.discards_iff, not_not, hallows]
    rw [Classical.not_imp, Bool.not_eq_false]
    tauto
  · rintro ⟨hlists, hsafe⟩
    obtain ⟨hfilter, hpermits⟩ := lists_iff.mp hlists
    exact Filter.Grammar.uses_of_permits (hallows.mpr ⟨hsafe, hfilter⟩) hpermits

/-- Posts whose title may be compared for equality only, with one more filter whose name is no
identifier. -/
def spacedPosts : GateDraft :=
  (GateDraft.make "Post").steps
    [.overlay (.filter "title" ["string"]), .overlay (.allowedOperators "title" ["eq"]),
      .overlay (.filter "full name" ["string"])]

open scoped Bundled in
/-- Equality of titles is listed and used, and the other operators on titles are not listed and are
dropped. -/
theorem listed_operators_usable_of_posts : ∃ gate version, spacedPosts.build = .ok gate ∧
    gate.version none = .ok version ∧ version.filterFields ≠ [] ∧
      version.grammar.Uses Validator.validate "title" .eq ∧
        version.grammar.Discards Validator.validate "title" .like := by
  obtain ⟨gate, version, hbuild, hserved, hfields, hlist⟩ : ∃ gate version,
      spacedPosts.build = .ok gate ∧ gate.version none = .ok version ∧
        version.filterFields = ["title", "full name"] ∧
        version.operators.find? "title" = some [.eq] := ⟨_, _, rfl, rfl, rfl, rfl⟩
  have hfilters : version.filterFields ≠ [] := by simp [hfields]
  have hsafe : Identifier.isSafe "title" = true := by decide
  have hpermits (operator : FilterOperator) :
      version.grammar.permits "title" operator = true ↔ operator = .eq := by
    rw [permits_iff, hlist]
    simp
  refine ⟨gate, version, hbuild, hserved, hfilters, ?_, ?_⟩
  · refine (listed_operators_usable Validator.validate gate hfilters "title" .eq).2
      ⟨lists_iff.mpr ⟨?_, ?_⟩, hsafe⟩
    · simp [hfields]
    · exact (hpermits .eq).mpr rfl
  · by_contra hkept
    have husable := (listed_operators_usable Validator.validate gate hfilters "title" .like).1.mpr
      ⟨fun hrefuses => Filter.Grammar.refuses_iff.mp hrefuses
        ⟨hsafe, (GateVersion.declares_iff_filter hfilters).mpr (by simp [hfields])⟩, hkept⟩
    obtain ⟨-, hlike⟩ := lists_iff.mp husable.1
    cases (hpermits .like).mp hlike

/-- The metadata of the posts list an operator under a name with a space, and filters on that name
are refused. -/
theorem spaced_filter_refused : ∃ gate version, spacedPosts.build = .ok gate ∧
    gate.version none = .ok version ∧ version.filterFields ≠ [] ∧
      Lists (gateMetadata gate version) "full name" .eq ∧
        ∀ validate, version.grammar.Refuses validate "full name" := by
  obtain ⟨gate, version, hbuild, hserved, hfields, hlist⟩ : ∃ gate version,
      spacedPosts.build = .ok gate ∧ gate.version none = .ok version ∧
        version.filterFields = ["title", "full name"] ∧
        version.operators.find? "full name" = none := ⟨_, _, rfl, rfl, rfl, rfl⟩
  have hspaced : Identifier.isSafe "full name" = false := by decide
  refine ⟨gate, version, hbuild, hserved, by simp [hfields], lists_iff.mpr ⟨?_, ?_⟩, ?_⟩
  · simp [hfields]
  · rw [permits_iff, hlist]
    exact nofun
  · exact fun validate => Filter.Grammar.refuses_iff.mpr fun hallowed =>
      Bool.false_ne_true (hspaced.symm.trans hallowed.1)

end Document

end EntityGate
