import EntityGate.Proofs.Data.Sorted
import EntityGate.Validation.Validator

/-!
# Verdicts of the validation

Data are accepted exactly if no ruled field breaks a rule: see `validate_ok_iff`. A field that is
checked alone is accepted as it is, or the message of its first broken rule is the only error: see
`validate_single`.
-/

namespace EntityGate

theorem FieldErrors.add_not_empty (errors : FieldErrors) (field message : String) :
    (errors.add field message).isEmpty = false :=
  List.isEmpty_eq_false_iff.mpr TextMap.insert_entry_ne_nil

namespace Validator

variable [Libraries]

/-- The errors so far, with that of one more field. -/
def noting (data : JsonFields) (errors : FieldErrors) (entry : String × List String) :
    FieldErrors :=
  match fieldFailure entry.1 (data.get? entry.1) entry.2 with
  | some message => errors.add entry.1 message
  | none => errors

theorem foldl_noting_is_empty_iff (data : JsonFields) (entries : List (String × List String))
    (errors : FieldErrors) :
    (entries.foldl (noting data) errors).isEmpty = true ↔ errors.isEmpty = true ∧
      ∀ entry ∈ entries, fieldFailure entry.1 (data.get? entry.1) entry.2 = none := by
  induction entries generalizing errors with
  | nil => simp
  | cons entry rest ih =>
      rw [List.foldl_cons, ih, List.forall_mem_cons]
      cases hfailure : fieldFailure entry.1 (data.get? entry.1) entry.2 with
      | none => simp [noting, hfailure]
      | some message => simp [noting, hfailure, FieldErrors.add_not_empty]

theorem errors_of_is_empty_iff (data : JsonFields) (rules : RuleMap) :
    (errorsOf data rules).isEmpty = true ↔
      ∀ entry ∈ rules.entries, fieldFailure entry.1 (data.get? entry.1) entry.2 = none :=
  (foldl_noting_is_empty_iff data rules.entries FieldErrors.none).trans (and_iff_right rfl)

/-- Data are accepted exactly if no ruled field breaks a rule. -/
theorem validate_ok_iff {data : JsonFields} {rules : RuleMap} :
    (∃ validated, validate data rules = .ok validated) ↔
      ∀ entry ∈ rules.entries, fieldFailure entry.1 (data.get? entry.1) entry.2 = none := by
  rw [← errors_of_is_empty_iff]
  cases hempty : (errorsOf data rules).isEmpty with
  | true => simp [validate, hempty]
  | false => simp [validate, hempty]

omit [Libraries] in
theorem message_unless_eq_none_iff {test : Bool} {message : String} :
    messageUnless test message = none ↔ test = true := by
  cases test with
  | true => simp [messageUnless]
  | false => simp [messageUnless]

/-- A value other than null that breaks no rule passes each of the tokens. -/
theorem token_failure_of_field_failure {field : String} {value : Json} {tokens : List String}
    (hvalue : value.isNull = false) (h : fieldFailure field (some value) tokens = none) :
    ∀ token ∈ tokens,
      tokenFailure (isNumericField tokens) field value (RuleToken.ofText token) = none := by
  unfold fieldFailure at h
  split at h
  · cases h
  · simpa [hvalue] using h

/-- A field alone is accepted, or its first broken rule is the only error. -/
theorem validate_single (field : String) (value : Json) (tokens : List String) :
    validate [(field, value)] (.single field tokens) =
      match fieldFailure field (some value) tokens with
      | some message => .error (.single field message)
      | none => .ok [(field, value)] := by
  have hvalue : JsonFields.get? [(field, value)] field = some value := by simp [JsonFields.get?]
  cases hfailure : fieldFailure field (some value) tokens with
  | none =>
      have hempty : (errorsOf [(field, value)] (.single field tokens)).isEmpty = true :=
        (errors_of_is_empty_iff _ _).mpr (by simpa [hvalue] using hfailure)
      simp [validate, hempty, validatedFields, hvalue]
  | some message =>
      have herrors : errorsOf [(field, value)] (.single field tokens) = .single field message := by
        simp [errorsOf, hvalue, hfailure, FieldErrors.single]
      simp [validate, herrors, FieldErrors.single, FieldErrors.add_not_empty]

end Validator

end EntityGate
