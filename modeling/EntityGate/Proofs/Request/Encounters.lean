import EntityGate.Library.Bundled
import EntityGate.Proofs.Request.Acceptance
import EntityGate.Proofs.Request.Shapes

/-!
# Filters in the order of their encounter

Parsing meets the fields of the filters and under each field its operators one after the other, and
each of them either contributes what it has to or is the first to offend: see `parse_eq`. Which
filters are accepted, what they are parsed to and which error is the answer otherwise follow from
this: `filters_parsed_exactly` puts them together.
-/

namespace EntityGate.Filter

/-- What parsing meets: a field, or an operator token on a field with the value written for it. -/
inductive Encounter where
  | field (name : String)
  | pair (field token : String) (raw : Json)

/-- What parsing meets under one field, in order. -/
def encountersOf (entry : String × List (String × Json)) : List Encounter :=
  .field entry.1 :: entry.2.map fun written => .pair entry.1 written.1 written.2

/-- What parsing meets in the filters, in order. -/
def encounters (filters : RawFilters) : List Encounter := filters.entries.flatMap encountersOf

/-- An operator on a field that is in the catalog and permitted there, with the value written for
it. -/
structure LivePair where
  field : String
  operator : FilterOperator
  raw : Json

namespace Grammar

variable {grammar : Grammar} {validate : InputValidator} {pair : LivePair}
  {instruction : FilterInstruction} {encounter : Encounter} {error : RequestError}

/-- The field may be filtered on. -/
def Allows (grammar : Grammar) (field : String) : Prop :=
  Identifier.isSafe field = true ∧ grammar.declares field = true

/-- The live pair that is met, if it is one. -/
def live? (grammar : Grammar) : Encounter → Option LivePair
  | .field _ => none
  | .pair field token raw =>
    (grammar.liveOperator? field token).map fun operator => ⟨field, operator, raw⟩

/-- The live pairs of the filters in the order of their encounter. -/
def livePairs (grammar : Grammar) (filters : RawFilters) : List LivePair :=
  (encounters filters).filterMap grammar.live?

/-! ## One live pair -/

/-- The instruction of a live pair. -/
def instruct (grammar : Grammar) (validate : InputValidator) (pair : LivePair) :
    Except RequestError FilterInstruction := do
  let value ← normalize pair.field pair.operator pair.raw
  grammar.check validate pair.field value
  return ⟨pair.field, pair.operator, value⟩

/-- The instruction is for the field and the operator of the pair. Its value has the shape that the
operator asks for, passes the rules of the field, and has no repetitions if it is a list. -/
structure Instructs (grammar : Grammar) (validate : InputValidator) (pair : LivePair)
    (instruction : FilterInstruction) : Prop where
  field_eq : instruction.field = pair.field
  operator_eq : instruction.operator = pair.operator
  shaped : Shaped pair.raw pair.operator instruction.value
  passes : ∀ checked ∈ checkedValues instruction.value, grammar.Passes validate pair.field checked
  distinct : ∀ values, instruction.value = .list values → Distinct (listValues pair.raw) values

theorem instruct_ok_iff :
    grammar.instruct validate pair = .ok instruction ↔
      grammar.Instructs validate pair instruction := by
  constructor
  · intro h
    obtain ⟨value, hvalue, h⟩ := except_bind_eq_ok h
    obtain ⟨_, hcheck, h⟩ := except_bind_eq_ok h
    cases h
    have hshaped := normalize_ok_iff.mp hvalue
    refine ⟨rfl, rfl, hshaped, check_ok_iff.mp hcheck, ?_⟩
    rintro values rfl
    exact hshaped.distinct
  · rintro ⟨hfield, hoperator, hshaped, hpasses, -⟩
    obtain ⟨field, operator, value⟩ := instruction
    cases hfield
    cases hoperator
    unfold instruct
    rw [normalize_ok_iff.mpr hshaped]
    show (grammar.check validate pair.field value >>= fun _ => _) = _
    rw [check_ok_iff.mpr hpasses]
    rfl

/-! ## One encounter -/

/-- What an encounter contributes, or the error that it is. -/
def answer (grammar : Grammar) (validate : InputValidator) :
    Encounter → Except RequestError (List FilterInstruction)
  | .field name =>
    if Identifier.isSafe name && grammar.declares name then .ok []
    else .error (.invalidField ("filter." ++ name) ("Filtering by " ++ name ++ " is not allowed."))
  | .pair field token raw =>
    match grammar.liveOperator? field token with
    | none => .ok []
    | some operator =>
      (grammar.instruct validate ⟨field, operator, raw⟩).map fun instruction => [instruction]

/-- The encounter is a reason to refuse the filters: a field that may not be filtered on, or a live
pair whose value has not the right shape or does not pass the rules of the field. -/
inductive Offends (grammar : Grammar) (validate : InputValidator) :
    Encounter → RequestError → Prop where
  | field {name} : ¬grammar.Allows name → Offends grammar validate (.field name)
      (.invalidField ("filter." ++ name) ("Filtering by " ++ name ++ " is not allowed."))
  | shape {field token raw operator message} : grammar.liveOperator? field token = some operator →
      Misshaped field raw operator message →
      Offends grammar validate (.pair field token raw) (.invalidField field message)
  | rules {field token raw operator value before failing after errors} :
      grammar.liveOperator? field token = some operator → Shaped raw operator value →
      checkedValues value = before ++ failing :: after →
      (∀ earlier ∈ before, grammar.Passes validate field earlier) →
      grammar.verdict validate field failing = .error errors →
      Offends grammar validate (.pair field token raw) (.invalid errors)

theorem instruct_error_iff {field token : String} {raw : Json} {operator : FilterOperator}
    (hlive : grammar.liveOperator? field token = some operator) :
    grammar.instruct validate ⟨field, operator, raw⟩ = .error error ↔
      grammar.Offends validate (.pair field token raw) error := by
  unfold instruct
  constructor
  · intro h
    rcases except_bind_eq_error_iff.mp h with h | ⟨value, hvalue, h⟩
    · obtain ⟨message, hmisshaped, rfl⟩ := normalize_error_iff.mp h
      exact .shape hlive hmisshaped
    · rcases except_bind_eq_error_iff.mp h with h | ⟨_, -, h⟩
      · obtain ⟨before, failing, after, errors, hsplit, hbefore, hfailing, rfl⟩ :=
          check_error_iff.mp h
        exact .rules hlive (normalize_ok_iff.mp hvalue) hsplit hbefore hfailing
      · cases h
  · intro h
    cases h with
    | shape hlive' hmisshaped =>
        cases hlive.symm.trans hlive'
        exact except_bind_eq_error_iff.mpr (.inl (normalize_of_misshaped hmisshaped))
    | rules hlive' hshaped hsplit hbefore hfailing =>
        cases hlive.symm.trans hlive'
        refine except_bind_eq_error_iff.mpr (.inr ⟨_, normalize_of_shaped hshaped, ?_⟩)
        refine except_bind_eq_error_iff.mpr (.inl (check_error_iff.mpr ?_))
        exact ⟨_, _, _, _, hsplit, hbefore, hfailing, rfl⟩

theorem answer_error_iff : grammar.answer validate encounter = .error error ↔
    grammar.Offends validate encounter error := by
  cases encounter with
  | field name =>
      by_cases hallowed : grammar.Allows name
      · have hanswer : grammar.answer validate (.field name) = .ok [] :=
          if_pos (Bool.and_eq_true_iff.mpr hallowed)
        rw [hanswer]
        refine ⟨nofun, fun h => ?_⟩
        cases h with
        | field hrefused => exact absurd hallowed hrefused
      · have hanswer : grammar.answer validate (.field name) = .error _ :=
          if_neg fun hpasses => hallowed (Bool.and_eq_true_iff.mp hpasses)
        rw [hanswer]
        constructor
        · intro h
          cases h
          exact .field hallowed
        · intro h
          cases h
          rfl
  | pair field token raw =>
      cases hlive : grammar.liveOperator? field token with
      | none =>
          rw [answer, hlive]
          refine ⟨nofun, fun h => ?_⟩
          cases h with
          | shape hlive' => cases hlive.symm.trans hlive'
          | rules hlive' => cases hlive.symm.trans hlive'
      | some operator =>
          rw [answer, hlive]
          exact except_map_eq_error_iff.trans (instruct_error_iff hlive)

/-- An encounter contributes what it has to unless it offends. -/
theorem answer_is_ok_iff : (∃ instructions, grammar.answer validate encounter = .ok instructions) ↔
    ∀ error, ¬grammar.Offends validate encounter error := by
  simp only [← answer_error_iff]
  cases grammar.answer validate encounter with
  | error error => exact ⟨nofun, fun h => absurd rfl (h error)⟩
  | ok instructions => exact ⟨fun _ => nofun, fun _ => ⟨instructions, rfl⟩⟩

/-! ## All encounters -/

theorem parse_operators_eq (grammar : Grammar) (validate : InputValidator) (field : String)
    (operators : List (String × Json)) :
    grammar.parseOperators validate field operators =
      ((operators.map fun written => Encounter.pair field written.1 written.2).mapM
        (grammar.answer validate)).map List.flatten := by
  induction operators with
  | nil => rfl
  | cons written rest ih =>
      obtain ⟨token, raw⟩ := written
      rw [List.map_cons, List.mapM_cons, parseOperators, answer, ih]
      generalize (rest.map _).mapM (grammar.answer validate) = others
      cases grammar.liveOperator? field token with
      | none => cases others <;> rfl
      | some operator =>
          simp only [instruct]
          cases normalize field operator raw with
          | error error => rfl
          | ok value =>
              show (grammar.check validate field value >>= fun _ => _) =
                ((((grammar.check validate field value >>= fun _ => _).map _ >>= fun _ => _)).map _)
              cases grammar.check validate field value with
              | error error => rfl
              | ok _ => cases others <;> rfl

theorem parse_fields_eq (grammar : Grammar) (validate : InputValidator)
    (entries : List (String × List (String × Json))) :
    grammar.parseFields validate entries =
      ((entries.flatMap encountersOf).mapM (grammar.answer validate)).map List.flatten := by
  induction entries with
  | nil => rfl
  | cons entry rest ih =>
      obtain ⟨field, operators⟩ := entry
      rw [List.flatMap_cons, encountersOf, List.cons_append, List.mapM_cons, List.mapM_append,
        parseFields, answer, parse_operators_eq, ih]
      generalize (operators.map _).mapM (grammar.answer validate) = first
      generalize (rest.flatMap encountersOf).mapM (grammar.answer validate) = others
      split
      · cases first with
        | error error => rfl
        | ok instructions =>
            cases others with
            | error error => rfl
            | ok more => exact congrArg Except.ok (List.flatten_append ..).symm
      · rfl

/-- Parsing is a pass over what it meets. -/
theorem parse_eq (grammar : Grammar) (validate : InputValidator) (filters : RawFilters) :
    grammar.parse validate filters =
      ((encounters filters).mapM (grammar.answer validate)).map List.flatten :=
  parse_fields_eq grammar validate filters.entries

/-- A field that may be filtered on and a pair that is not live contribute nothing. -/
theorem answer_of_not_live (hlive : grammar.live? encounter = none)
    (hallowed : ∀ name, encounter = .field name → grammar.Allows name) :
    grammar.answer validate encounter = .ok [] := by
  cases encounter with
  | field name => exact if_pos (Bool.and_eq_true_iff.mpr (hallowed name rfl))
  | pair field token raw =>
      rw [live?, Option.map_eq_none_iff] at hlive
      rw [answer, hlive]

/-- A live pair contributes its instruction. -/
theorem answer_of_live (hlive : grammar.live? encounter = some pair) :
    grammar.answer validate encounter =
      (grammar.instruct validate pair).map fun instruction => [instruction] := by
  cases encounter with
  | field name => cases hlive
  | pair field token raw =>
      rw [live?, Option.map_eq_some_iff] at hlive
      obtain ⟨operator, hoperator, rfl⟩ := hlive
      rw [answer, hoperator]

/-- Where all fields may be filtered on, only the live pairs matter. -/
theorem map_m_answer_of_allowed {met : List Encounter}
    (hallowed : ∀ name, .field name ∈ met → grammar.Allows name) :
    (met.mapM (grammar.answer validate)).map List.flatten =
      (met.filterMap grammar.live?).mapM (grammar.instruct validate) := by
  induction met with
  | nil => rfl
  | cons encounter rest ih =>
      have hrest := ih fun name hname => hallowed name (List.mem_cons_of_mem _ hname)
      rw [List.mapM_cons]
      cases hlive : grammar.live? encounter with
      | none =>
          have hanswer : grammar.answer validate encounter = .ok [] :=
            answer_of_not_live hlive fun name hname => hallowed name (hname ▸ List.mem_cons_self)
          rw [List.filterMap_cons_none hlive, ← hrest, hanswer]
          cases rest.mapM (grammar.answer validate) <;> rfl
      | some pair =>
          rw [List.filterMap_cons_some hlive, List.mapM_cons, ← hrest, answer_of_live hlive]
          cases grammar.instruct validate pair with
          | error error => rfl
          | ok instruction => cases rest.mapM (grammar.answer validate) <;> rfl

/-- Filters on fields that may be filtered on are parsed to the instructions of their live pairs. -/
theorem parse_of_allowed {filters : RawFilters}
    (hallowed : ∀ entry ∈ filters.entries, grammar.Allows entry.1) :
    grammar.parse validate filters =
      (grammar.livePairs filters).mapM (grammar.instruct validate) := by
  rw [parse_eq]
  refine map_m_answer_of_allowed fun name hname => ?_
  obtain ⟨entry, hentry, hmet⟩ := List.mem_flatMap.mp hname
  rcases List.mem_cons.mp hmet with heq | hmet
  · cases heq
    exact hallowed entry hentry
  · obtain ⟨_, -, heq⟩ := List.mem_map.mp hmet
    cases heq

/-- The encounter can have a part in the outcome: a field that may not be filtered on, or a live
pair. -/
def counts (grammar : Grammar) : Encounter → Bool
  | .field name => !(Identifier.isSafe name && grammar.declares name)
  | .pair field token _ => (grammar.liveOperator? field token).isSome

theorem answer_of_not_counts (h : grammar.counts encounter = false) :
    grammar.answer validate encounter = .ok [] := by
  cases encounter with
  | field name => exact if_pos (by simpa [counts] using h)
  | pair field token raw =>
      rw [counts, Option.isSome_eq_false_iff, Option.isNone_iff_eq_none] at h
      rw [answer, h]

theorem map_m_answer_filter (met : List Encounter) :
    (met.mapM (grammar.answer validate)).map List.flatten =
      ((met.filter grammar.counts).mapM (grammar.answer validate)).map List.flatten := by
  induction met with
  | nil => rfl
  | cons encounter rest ih =>
      cases hcounts : grammar.counts encounter with
      | false =>
          rw [List.filter_cons_of_neg (by simp [hcounts]), ← ih, List.mapM_cons,
            answer_of_not_counts hcounts]
          cases rest.mapM (grammar.answer validate) <;> rfl
      | true =>
          rw [List.filter_cons_of_pos hcounts, List.mapM_cons, List.mapM_cons]
          cases grammar.answer validate encounter with
          | error error => rfl
          | ok instructions =>
              revert ih
              cases rest.mapM (grammar.answer validate) <;>
                cases (rest.filter grammar.counts).mapM (grammar.answer validate) <;>
                simp [Except.map, bind, Except.bind, pure, Except.pure]

/-- Only the encounters that count decide the outcome. -/
theorem parse_eq_of_counting {filters other : RawFilters}
    (h : (encounters other).filter grammar.counts = (encounters filters).filter grammar.counts) :
    grammar.parse validate other = grammar.parse validate filters := by
  rw [parse_eq, parse_eq, map_m_answer_filter, h, ← map_m_answer_filter]

theorem takes_iff {field : String} {operator : FilterOperator} {raw : Json} :
    grammar.Takes validate field operator raw ↔ ∃ value, Shaped raw operator value ∧
      ∀ checked ∈ checkedValues value, grammar.Passes validate field checked := by
  simp only [Takes, normalize_ok_iff, check_ok_iff]

/-! ## What filters are parsed to -/

/-- Filters are accepted exactly if every field may be filtered on and what was written for every
live operator has its shape and passes the rules of the field. They are then parsed to one
instruction for each live pair, in order. Otherwise the first encounter that offends gives the
error. Pairs that are not live and fields that may be filtered on leave the outcome as it is. -/
theorem filters_parsed_exactly (grammar : Grammar) (validate : InputValidator)
    (filters : RawFilters) :
    ((∃ instructions, grammar.parse validate filters = .ok instructions) ↔
      ∀ entry ∈ filters.entries,
        Identifier.isSafe entry.1 = true ∧ grammar.declares entry.1 = true ∧
          ∀ written ∈ entry.2, ∀ operator,
            grammar.liveOperator? entry.1 written.1 = some operator →
              ∃ value, Shaped written.2 operator value ∧
                ∀ checked ∈ checkedValues value, grammar.Passes validate entry.1 checked) ∧
    (∀ instructions, grammar.parse validate filters = .ok instructions →
      List.Forall₂ (grammar.Instructs validate) (grammar.livePairs filters) instructions) ∧
    (∀ error, grammar.parse validate filters = .error error ↔
      ∃ before encounter after, encounters filters = before ++ encounter :: after ∧
        (∀ earlier ∈ before, ∀ other, ¬grammar.Offends validate earlier other) ∧
        grammar.Offends validate encounter error) ∧
    ∀ other : RawFilters,
      (encounters other).filter grammar.counts = (encounters filters).filter grammar.counts →
      grammar.parse validate other = grammar.parse validate filters := by
  have haccepts : (∃ instructions, grammar.parse validate filters = .ok instructions) ↔
      grammar.Accepts validate filters := parse_ok_iff
  simp only [Accepts, AcceptsField, takes_iff] at haccepts
  refine ⟨haccepts, fun instructions h => ?_, fun error => ?_, fun _ => parse_eq_of_counting⟩
  · have hallowed : ∀ entry ∈ filters.entries, grammar.Allows entry.1 := fun entry hentry =>
      ⟨(haccepts.mp ⟨instructions, h⟩ entry hentry).1,
        (haccepts.mp ⟨instructions, h⟩ entry hentry).2.1⟩
    rw [parse_of_allowed hallowed] at h
    exact (map_m_eq_ok_iff.mp h).imp fun _ _ => instruct_ok_iff.mp
  · simp only [parse_eq, except_map_eq_error_iff, map_m_eq_error_iff, answer_is_ok_iff,
      answer_error_iff]

/-- Titles are required texts that may be compared for equality, views are whole numbers. -/
def titlesAndViews : Grammar where
  rules := .ofList [("title", ["required", "string"]), ("views", ["integer"])]
  operators := .ofList [("title", [.eq])]
  rawFields := []

open scoped Bundled in
/-- An operator outside the catalog and one that is not permitted are dropped: what stays is the
title and the two views. -/
theorem title_and_views_parsed :
    let title : LivePair := ⟨"title", .eq, .string "Hello"⟩
    let views : LivePair := ⟨"views", .between, .string "10, 20,10"⟩
    let filters : RawFilters :=
      { entries := [
          ("title", [("contains", .string "x"), ("EQ", title.raw), ("like", .string "%")]),
          ("views", [("between", views.raw)])]
        nodup := by decide }
    let alone : RawFilters :=
      { entries := [("title", [("EQ", title.raw)]), ("views", [("between", views.raw)])]
        nodup := by decide }
    (∃ instructions, titlesAndViews.parse Validator.validate filters = .ok instructions ∧
      List.Forall₂ (titlesAndViews.Instructs Validator.validate) [title, views] instructions) ∧
      titlesAndViews.parse Validator.validate alone =
        titlesAndViews.parse Validator.validate filters := by
  intro title views filters alone
  have hdropped : titlesAndViews.liveOperator? "title" "contains" = none ∧
      titlesAndViews.liveOperator? "title" "like" = none := by decide +kernel
  have hlive : titlesAndViews.liveOperator? "title" "EQ" = some .eq ∧
      titlesAndViews.liveOperator? "views" "between" = some .between := by decide +kernel
  have hpairs : titlesAndViews.livePairs filters = [title, views] := by
    simp [livePairs, encounters, encountersOf, List.filterMap_cons, live?, filters, title, views,
      hdropped, hlive]
  have htitleAllowed : titlesAndViews.Allows "title" := ⟨by decide +kernel, by decide +kernel⟩
  have hviewsAllowed : titlesAndViews.Allows "views" := ⟨by decide +kernel, by decide +kernel⟩
  obtain ⟨haccepts, hinstructs, -, hsame⟩ :=
    filters_parsed_exactly titlesAndViews Validator.validate filters
  have hparsed : ∃ instructions,
      titlesAndViews.parse Validator.validate filters = .ok instructions := by
    have hparts : ((Text.split (· == ',') "10, 20,10").map Text.trim).filter
        (fun part => !part.isEmpty) = ["10", "20", "10"] := by decide +kernel
    have hviews : coerceList views.raw = [.string "10", .string "20"] := by
      simp [coerceList, views, listValues, hparts, distinctFrom, Json.sameValue]
    have htitle : titlesAndViews.Passes Validator.validate "title" title.raw :=
      passes_validate_iff.mpr (by decide +kernel)
    have hten : titlesAndViews.Passes Validator.validate "views" (.string "10") :=
      passes_validate_iff.mpr (by decide +kernel)
    have htwenty : titlesAndViews.Passes Validator.validate "views" (.string "20") :=
      passes_validate_iff.mpr (by decide +kernel)
    refine haccepts.mpr (List.forall_mem_cons.mpr ⟨⟨htitleAllowed.1, htitleAllowed.2, ?_⟩,
      List.forall_mem_singleton.mpr ⟨hviewsAllowed.1, hviewsAllowed.2, ?_⟩⟩)
    · simp only [List.forall_mem_cons, hdropped, hlive, Option.some.injEq, forall_eq', reduceCtorEq,
        false_implies, implies_true, List.not_mem_nil, and_true, true_and]
      exact ⟨_, .scalar rfl rfl (by decide +kernel), List.forall_mem_singleton.mpr htitle⟩
    · simp only [List.forall_mem_singleton, hlive, Option.some.injEq, forall_eq']
      refine ⟨_, .between (congrArg List.length hviews), ?_⟩
      simp [checkedValues, hviews, hten, htwenty]
  obtain ⟨instructions, hparse⟩ := hparsed
  refine ⟨⟨instructions, hparse, hpairs ▸ hinstructs instructions hparse⟩, ?_⟩
  exact hsame alone (by
    simp [encounters, encountersOf, List.filter_cons, counts, filters, alone, hdropped, hlive])

end Grammar

end EntityGate.Filter
