import EntityGate.Proofs.Gate.Versions
import EntityGate.Proofs.Validation.Verdict
import EntityGate.Query.Filter

/-!
# Shapes of filter values

What an operator makes of the value that was written for it, as a relation beside the function: see
`normalize_ok_iff`, and `normalize_error_iff` for values without the shape that the operator asks
for. The values of a list are those found in what was written, without repetitions: see
`coerce_list_distinct`.
-/

namespace EntityGate.Filter

/-! ## Lists without repetitions -/

/-- The values are the first occurrences among those found. -/
structure Distinct (found values : List Json) : Prop where
  sublist : values.Sublist found
  apart : values.Pairwise fun earlier later => earlier.sameValue later = false
  complete : ∀ value ∈ found, value ∈ values ∨ ∃ earlier ∈ values, earlier.sameValue value = true

theorem distinct_from_sublist (seen found : List Json) :
    (distinctFrom seen found).Sublist found := by
  fun_induction distinctFrom seen found with
  | case1 => exact .slnil
  | case2 seen value rest _ ih => exact ih.cons value
  | case3 seen value rest _ ih => exact ih.cons_cons value

theorem distinct_from_unseen (seen found : List Json) :
    ∀ value ∈ distinctFrom seen found, ∀ earlier ∈ seen, earlier.sameValue value = false := by
  fun_induction distinctFrom seen found with
  | case1 => exact nofun
  | case2 seen value rest _ ih => exact ih
  | case3 seen value rest hunseen ih =>
      intro kept hkept earlier hearlier
      rcases List.mem_cons.mp hkept with rfl | hkept
      · simpa using List.any_eq_false.mp (Bool.not_eq_true _ ▸ hunseen) earlier hearlier
      · exact ih kept hkept earlier (List.mem_append_left _ hearlier)

theorem distinct_from_apart (seen found : List Json) :
    (distinctFrom seen found).Pairwise fun earlier later => earlier.sameValue later = false := by
  fun_induction distinctFrom seen found with
  | case1 => exact .nil
  | case2 seen value rest _ ih => exact ih
  | case3 seen value rest _ ih =>
      refine .cons (fun later hlater => ?_) ih
      exact distinct_from_unseen _ _ later hlater value (by simp)

/-- What is dropped was seen before or is kept. -/
theorem distinct_from_complete (seen found : List Json) :
    ∀ value ∈ found, value ∈ distinctFrom seen found ∨
      ∃ earlier ∈ seen ++ distinctFrom seen found, earlier.sameValue value = true := by
  fun_induction distinctFrom seen found with
  | case1 => exact nofun
  | case2 seen value rest hseen ih =>
      obtain ⟨earlier, hearlier, hsame⟩ := List.any_eq_true.mp hseen
      exact List.forall_mem_cons.mpr
        ⟨.inr ⟨earlier, List.mem_append_left _ hearlier, hsame⟩, ih⟩
  | case3 seen value rest _ ih =>
      refine List.forall_mem_cons.mpr ⟨.inl List.mem_cons_self, fun other hother => ?_⟩
      rcases ih other hother with hkept | ⟨earlier, hearlier, hsame⟩
      · exact .inl (List.mem_cons_of_mem _ hkept)
      · exact .inr ⟨earlier, by simpa using hearlier, hsame⟩

theorem coerce_list_distinct (raw : Json) : Distinct (listValues raw) (coerceList raw) where
  sublist := distinct_from_sublist [] _
  apart := distinct_from_apart [] _
  complete := distinct_from_complete [] _

/-! ## What an operator asks for -/

/-- The single value that was written: any value that is no object and no array, or the only item
of an array. -/
def single? : Json → Option Json
  | .array [item] => some item
  | .array _ | .object _ => none
  | value => some value

/-- What was written has the shape that the operator asks for, and this is the value in it. -/
inductive Shaped (raw : Json) : FilterOperator → FilterValue → Prop where
  | oneOf : coerceList raw ≠ [] → Shaped raw .oneOf (.list (coerceList raw))
  | between : (coerceList raw).length = 2 → Shaped raw .between (.list (coerceList raw))
  | null {operator value} : operator.isMulti = false → single? raw = some value →
      isNullToken value = true → Shaped raw operator .null
  | scalar {operator value} : operator.isMulti = false → single? raw = some value →
      isNullToken value = false → Shaped raw operator (.scalar value)

/-- What was written has not the shape that the operator asks for, and this is said about it. -/
inductive Misshaped (field : String) (raw : Json) : FilterOperator → String → Prop where
  | oneOf : coerceList raw = [] →
      Misshaped field raw .oneOf ("The " ++ field ++ " filter must receive at least one value.")
  | between : (coerceList raw).length ≠ 2 →
      Misshaped field raw .between ("The " ++ field ++ " filter requires exactly two values.")
  | single {operator} : operator.isMulti = false → single? raw = none →
      Misshaped field raw operator ("The " ++ field ++ " filter expects a single value.")

variable {field : String} {operator : FilterOperator} {raw : Json} {value : FilterValue}

/-- An operator that takes no list takes a single value. -/
theorem normalize_of_single (h : operator.isMulti = false) :
    normalize field operator raw =
      match single? raw with
      | some value => .ok (if isNullToken value then .null else .scalar value)
      | none =>
        .error (.invalidField field ("The " ++ field ++ " filter expects a single value.")) := by
  have hcases : normalize field operator raw = normalize field .eq raw := by
    cases operator with
    | oneOf | between => cases h
    | _ => rfl
  rw [hcases]
  cases raw with
  | array items =>
      match items with
      | [] | [_] | _ :: _ :: _ => rfl
  | _ => rfl

theorem normalize_of_shaped (h : Shaped raw operator value) :
    normalize field operator raw = .ok value := by
  cases h with
  | oneOf hfilled => simp [normalize, hfilled]
  | between htwo => simp [normalize, htwo]
  | null hsingle hvalue hnull => simp [normalize_of_single hsingle, hvalue, hnull]
  | scalar hsingle hvalue hnull => simp [normalize_of_single hsingle, hvalue, hnull]

theorem normalize_of_misshaped {message : String} (h : Misshaped field raw operator message) :
    normalize field operator raw = .error (.invalidField field message) := by
  cases h with
  | oneOf hempty => simp [normalize, hempty]
  | between htwo => simp [normalize, htwo]
  | single hsingle hvalue => simp [normalize_of_single hsingle, hvalue]

/-- What was written has the shape that the operator asks for, or it has not. -/
theorem shaped_or_misshaped (field : String) (operator : FilterOperator) (raw : Json) :
    (∃ value, Shaped raw operator value) ∨ ∃ message, Misshaped field raw operator message := by
  cases hmulti : operator.isMulti with
  | false =>
      cases hsingle : single? raw with
      | none => exact .inr ⟨_, .single hmulti hsingle⟩
      | some value =>
          cases hnull : isNullToken value with
          | true => exact .inl ⟨_, .null hmulti hsingle hnull⟩
          | false => exact .inl ⟨_, .scalar hmulti hsingle hnull⟩
  | true =>
      cases operator with
      | oneOf =>
          by_cases hempty : coerceList raw = []
          · exact .inr ⟨_, .oneOf hempty⟩
          · exact .inl ⟨_, .oneOf hempty⟩
      | between =>
          by_cases htwo : (coerceList raw).length = 2
          · exact .inl ⟨_, .between htwo⟩
          · exact .inr ⟨_, .between htwo⟩
      | _ => cases hmulti

theorem normalize_ok_iff :
    normalize field operator raw = .ok value ↔ Shaped raw operator value := by
  refine ⟨fun h => ?_, normalize_of_shaped⟩
  rcases shaped_or_misshaped field operator raw with ⟨other, hshaped⟩ | ⟨_, hmisshaped⟩
  · cases h.symm.trans (normalize_of_shaped hshaped)
    exact hshaped
  · cases h.symm.trans (normalize_of_misshaped hmisshaped)

theorem normalize_error_iff {error : RequestError} :
    normalize field operator raw = .error error ↔
      ∃ message, Misshaped field raw operator message ∧ error = .invalidField field message := by
  constructor
  · intro h
    rcases shaped_or_misshaped field operator raw with ⟨_, hshaped⟩ | ⟨message, hmisshaped⟩
    · cases h.symm.trans (normalize_of_shaped hshaped)
    · cases h.symm.trans (normalize_of_misshaped hmisshaped)
      exact ⟨message, hmisshaped, rfl⟩
  · rintro ⟨message, hmisshaped, rfl⟩
    exact normalize_of_misshaped hmisshaped

/-- The values of a list filter do not repeat. -/
theorem Shaped.distinct {values : List Json} (h : Shaped raw operator (.list values)) :
    Distinct (listValues raw) values := by
  cases h with
  | oneOf | between => exact coerce_list_distinct raw

namespace Grammar

/-! ## What the rules of a field ask for -/

variable {grammar : Grammar} {validate : InputValidator} {error : RequestError}

/-- The rules of a field, none for a field that has no rules. -/
def rulesOf (grammar : Grammar) (field : String) : List String :=
  (grammar.rules.get? field).getD []

/-- What a validator says of a value under the rules of a field. Nothing is asked of the values of a
field without rules. -/
def verdict (grammar : Grammar) (validate : InputValidator) (field : String) (value : Json) :
    Except FieldErrors JsonFields :=
  match grammar.rulesOf field with
  | [] => .ok [(field, value)]
  | tokens => validate [(field, value)] (.single field tokens)

/-- The validator accepts the value under the rules of the field. -/
def Passes (grammar : Grammar) (validate : InputValidator) (field : String) (value : Json) : Prop :=
  ∃ validated, grammar.verdict validate field value = .ok validated

/-- The value breaks no rule of the field, of which it may have none. -/
theorem passes_validate_iff [Libraries] {value : Json} :
    grammar.Passes Validator.validate field value ↔
      Validator.fieldFailure field (some value) (grammar.rulesOf field) = none := by
  unfold Passes verdict
  cases grammar.rulesOf field with
  | nil => simp [Validator.fieldFailure]
  | cons token rest =>
      simp only [Validator.validate_single]
      cases Validator.fieldFailure field (some value) (token :: rest) <;> simp

theorem check_values_eq (validate : InputValidator) (field : String) (tokens : List String)
    (values : List Json) : checkValues validate field tokens values =
      (values.mapM fun value =>
        (validate [(field, value)] (.single field tokens)).mapError .invalid).map fun _ => () := by
  induction values with
  | nil => rfl
  | cons value rest ih =>
      rw [List.mapM_cons, checkValues, ih]
      cases validate [(field, value)] (.single field tokens) with
      | error errors => rfl
      | ok validated =>
          cases rest.mapM fun value =>
            (validate [(field, value)] (.single field tokens)).mapError RequestError.invalid with
          | error failure => rfl
          | ok others => rfl

theorem check_eq (grammar : Grammar) (validate : InputValidator) (field : String)
    (value : FilterValue) :
    grammar.check validate field value = ((checkedValues value).mapM fun checked =>
      (grammar.verdict validate field checked).mapError .invalid).map fun _ => () := by
  have hunchecked : ((checkedValues value).mapM fun checked =>
      (Except.ok [(field, checked)]).mapError RequestError.invalid) =
        .ok ((checkedValues value).map fun checked => [(field, checked)]) :=
    List.mapM_pure
  unfold check verdict rulesOf
  cases grammar.rules.get? field with
  | none => exact (congrArg (Except.map fun _ => ()) hunchecked).symm
  | some tokens =>
      cases tokens with
      | nil => exact (congrArg (Except.map fun _ => ()) hunchecked).symm
      | cons token rest => exact check_values_eq validate field (token :: rest) _

theorem passes_iff {checked : Json} : grammar.Passes validate field checked ↔ ∃ validated,
    (grammar.verdict validate field checked).mapError RequestError.invalid = .ok validated := by
  unfold Passes
  cases grammar.verdict validate field checked <;> simp [Except.mapError]

theorem verdict_error_iff {checked : Json} :
    (grammar.verdict validate field checked).mapError RequestError.invalid = .error error ↔
      ∃ errors, grammar.verdict validate field checked = .error errors ∧
        error = .invalid errors := by
  cases grammar.verdict validate field checked with
  | error errors => simp [Except.mapError, eq_comm]
  | ok validated => simp [Except.mapError]

theorem check_ok_iff : grammar.check validate field value = .ok () ↔
    ∀ checked ∈ checkedValues value, grammar.Passes validate field checked := by
  simp only [check_eq, except_map_eq_ok_iff, and_true, map_m_is_ok_iff, passes_iff]

/-- The first value that does not pass gives the error. -/
theorem check_error_iff : grammar.check validate field value = .error error ↔
    ∃ before failing after errors, checkedValues value = before ++ failing :: after ∧
      (∀ earlier ∈ before, grammar.Passes validate field earlier) ∧
      grammar.verdict validate field failing = .error errors ∧ error = .invalid errors := by
  simp only [check_eq, except_map_eq_error_iff, map_m_eq_error_iff, passes_iff, verdict_error_iff]
  constructor
  · rintro ⟨before, failing, after, hsplit, hbefore, errors, hfailing⟩
    exact ⟨before, failing, after, errors, hsplit, hbefore, hfailing⟩
  · rintro ⟨before, failing, after, errors, hsplit, hbefore, hfailing⟩
    exact ⟨before, failing, after, hsplit, hbefore, errors, hfailing⟩

end Grammar

end EntityGate.Filter
