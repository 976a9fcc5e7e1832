import EntityGate.Proofs.Gate.Versions
import EntityGate.Query.Filter

/-!
# Filters that are accepted

Parsing answers exactly when every field of the filters is safe and declared and every live
operator takes its value: see `parse_ok_iff`. What it answers names such fields and live
operators only: see `parse_sound`.
-/

namespace EntityGate.Filter.Grammar

variable {grammar : Grammar} {validate : InputValidator} {field : String}

/-- The value has the shape that the operator asks for and passes the rules of the field. -/
def Takes (grammar : Grammar) (validate : InputValidator) (field : String)
    (operator : FilterOperator) (raw : Json) : Prop :=
  ∃ value, normalize field operator raw = .ok value ∧ grammar.check validate field value = .ok ()

/-- The field is safe and declared, and every operator that is live on it takes its value. -/
def AcceptsField (grammar : Grammar) (validate : InputValidator)
    (entry : String × List (String × Json)) : Prop :=
  Identifier.isSafe entry.1 = true ∧ grammar.declares entry.1 = true ∧
    ∀ written ∈ entry.2, ∀ operator,
      grammar.liveOperator? entry.1 written.1 = some operator →
        grammar.Takes validate entry.1 operator written.2

/-- Every field is accepted with its operators. -/
def Accepts (grammar : Grammar) (validate : InputValidator) (filters : RawFilters) : Prop :=
  ∀ entry ∈ filters.entries, grammar.AcceptsField validate entry

/-- The instruction is for a safe and declared field and an operator permitted on it. -/
def Sound (grammar : Grammar) (instruction : FilterInstruction) : Prop :=
  Identifier.isSafe instruction.field = true ∧ grammar.declares instruction.field = true ∧
    grammar.permits instruction.field instruction.operator = true

theorem live_operator_permitted {token : String} {operator : FilterOperator}
    (h : grammar.liveOperator? field token = some operator) :
    grammar.permits field operator = true := by
  obtain ⟨-, hpermits⟩ := Option.filter_eq_some_iff.mp h
  exact hpermits

/-! ## The operators of one field -/

theorem parse_operators_ok_iff {operators : List (String × Json)} :
    (∃ instructions, grammar.parseOperators validate field operators = .ok instructions) ↔
      ∀ written ∈ operators, ∀ operator,
        grammar.liveOperator? field written.1 = some operator →
          grammar.Takes validate field operator written.2 := by
  induction operators with
  | nil => simp [parseOperators]
  | cons written rest ih =>
      obtain ⟨token, raw⟩ := written
      rw [List.forall_mem_cons, ← ih]
      cases hlive : grammar.liveOperator? field token with
      | none => simp [parseOperators, hlive]
      | some operator =>
          simp only [parseOperators, hlive]
          constructor
          · rintro ⟨instructions, h⟩
            obtain ⟨value, hvalue, h⟩ := except_bind_eq_ok h
            obtain ⟨_, hcheck, h⟩ := except_bind_eq_ok h
            obtain ⟨others, hothers, -⟩ := except_bind_eq_ok h
            refine ⟨?_, others, hothers⟩
            intro live hsame
            cases hsame
            exact ⟨value, hvalue, hcheck⟩
          · rintro ⟨htakes, others, hothers⟩
            obtain ⟨value, hvalue, hcheck⟩ := htakes operator rfl
            rw [hvalue]
            refine ⟨⟨field, operator, value⟩ :: others, ?_⟩
            show (grammar.check validate field value >>= fun _ => _) = _
            rw [hcheck, hothers]
            rfl

theorem parse_operators_sound {operators : List (String × Json)}
    {instructions : List FilterInstruction}
    (h : grammar.parseOperators validate field operators = .ok instructions) :
    ∀ instruction ∈ instructions, instruction.field = field ∧
      grammar.permits field instruction.operator = true := by
  induction operators generalizing instructions with
  | nil =>
      cases h
      exact nofun
  | cons written rest ih =>
      obtain ⟨token, raw⟩ := written
      cases hlive : grammar.liveOperator? field token with
      | none =>
          simp only [parseOperators, hlive] at h
          exact ih h
      | some operator =>
          simp only [parseOperators, hlive] at h
          obtain ⟨value, _, h⟩ := except_bind_eq_ok h
          obtain ⟨_, _, h⟩ := except_bind_eq_ok h
          obtain ⟨others, hothers, h⟩ := except_bind_eq_ok h
          cases h
          intro instruction hinstruction
          rcases List.mem_cons.mp hinstruction with rfl | hinstruction
          · exact ⟨rfl, live_operator_permitted hlive⟩
          · exact ih hothers instruction hinstruction

/-! ## All fields -/

theorem parse_fields_ok_iff {entries : List (String × List (String × Json))} :
    (∃ instructions, grammar.parseFields validate entries = .ok instructions) ↔
      ∀ entry ∈ entries, grammar.AcceptsField validate entry := by
  induction entries with
  | nil => simp [parseFields]
  | cons entry rest ih =>
      obtain ⟨field, operators⟩ := entry
      rw [List.forall_mem_cons, ← ih, AcceptsField, ← parse_operators_ok_iff]
      by_cases hfield : Identifier.isSafe field = true ∧ grammar.declares field = true
      · simp only [parseFields, hfield, Bool.and_self, if_true, true_and]
        constructor
        · rintro ⟨instructions, h⟩
          obtain ⟨first, hfirst, h⟩ := except_bind_eq_ok h
          obtain ⟨others, hothers, -⟩ := except_bind_eq_ok h
          exact ⟨⟨first, hfirst⟩, others, hothers⟩
        · rintro ⟨⟨first, hfirst⟩, others, hothers⟩
          rw [hfirst, hothers]
          exact ⟨first ++ others, rfl⟩
      · have hrefused : (Identifier.isSafe field && grammar.declares field) = false := by
          rw [← Bool.not_eq_true, Bool.and_eq_true]
          exact hfield
        simp only [parseFields, hrefused]
        constructor
        · rintro ⟨_, h⟩
          cases h
        · rintro ⟨⟨hsafe, hdeclares, -⟩, -⟩
          exact False.elim (hfield ⟨hsafe, hdeclares⟩)

theorem parse_fields_sound {entries : List (String × List (String × Json))}
    {instructions : List FilterInstruction}
    (h : grammar.parseFields validate entries = .ok instructions) :
    ∀ instruction ∈ instructions, grammar.Sound instruction := by
  induction entries generalizing instructions with
  | nil =>
      cases h
      exact nofun
  | cons entry rest ih =>
      obtain ⟨field, operators⟩ := entry
      unfold parseFields at h
      split at h
      · rename_i hfield
        obtain ⟨hsafe, hdeclares⟩ := Bool.and_eq_true_iff.mp hfield
        obtain ⟨first, hfirst, h⟩ := except_bind_eq_ok h
        obtain ⟨others, hothers, h⟩ := except_bind_eq_ok h
        cases h
        intro instruction hinstruction
        rcases List.mem_append.mp hinstruction with hinstruction | hinstruction
        · obtain ⟨rfl, hpermits⟩ := parse_operators_sound hfirst instruction hinstruction
          exact ⟨hsafe, hdeclares, hpermits⟩
        · exact ih hothers instruction hinstruction
      · cases h

/-- Filters are parsed exactly when the grammar accepts them. -/
theorem parse_ok_iff {filters : RawFilters} :
    (∃ instructions, grammar.parse validate filters = .ok instructions) ↔
      grammar.Accepts validate filters :=
  parse_fields_ok_iff

/-- The instructions of accepted filters are for declared fields and permitted operators. -/
theorem parse_sound {filters : RawFilters} {instructions : List FilterInstruction}
    (h : grammar.parse validate filters = .ok instructions) :
    ∀ instruction ∈ instructions, grammar.Sound instruction :=
  parse_fields_sound h

end EntityGate.Filter.Grammar
