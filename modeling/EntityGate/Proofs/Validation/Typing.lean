import EntityGate.Library.Bundled
import EntityGate.Proofs.Data.Entries
import EntityGate.Proofs.Text.Blank
import EntityGate.Proofs.Validation.Verdict
import EntityGate.Sql.BoundValue

/-!
# Typed values of accepted texts

The kind of a field comes from its first rule that names a type, and the validation checks a value
against this rule among the others. Both read the same text, each in its own way. They agree as long
as no white space stands between the name of the rule and its colon, and no infinity or not-a-number
is written, neither of which is a JSON number: see `accepted_text_is_typed`, and
`accepted_texts_left_as_written` for what happens otherwise.
-/

namespace EntityGate

namespace RuleToken

/-- No white space stands around the name of the rule that a text writes. -/
def PlainName (token : String) : Prop :=
  Text.trim (ofText token).name = (ofText token).name

instance (token : String) : Decidable (PlainName token) :=
  inferInstanceAs (Decidable (_ = _))

/-- The name of a rule is what stands before the first colon. -/
theorem name_of_text (token : String) :
    (ofText token).name = String.ofList (token.toList.takeWhile (· != ':')) := by
  rw [Text.take_while_eq_cut]
  unfold ofText Text.cut?
  cases Text.cutChars? ':' token.toList with
  | none => exact String.ofList_toList.symm
  | some parts => rfl

end RuleToken

namespace ValueKind

/-- The names of the rules that ask for a kind of value. -/
def ruleNames : ValueKind → List String
  | .integer => ["integer", "int"]
  | .number => ["numeric", "decimal"]
  | .boolean => ["boolean", "bool"]
  | .date => ["date"]
  | .dateTime => ["datetime", "date_format"]
  | .text | .json => []

/-- Whether the validation takes a value for one of the kind. -/
def passes : ValueKind → Json → Bool
  | .integer => Validator.isInteger
  | .number => Validator.isNumeric
  | .boolean => Validator.isBoolean
  | _ => fun _ => true

/-- The value is of the kind: an integer, a number or a truth value. -/
def Typed : ValueKind → Json → Prop
  | .integer, value => ∃ integer, value = .number (.int integer)
  | .number, value => ∃ number, value = .number number
  | .boolean, value => ∃ truth, value = .bool truth
  | _, _ => False

/-- A token names a kind by one of its names, white space aside. -/
theorem name_mem_of_token {token : String} {kind : ValueKind}
    (h : ofToken? token = some kind) :
    Text.trim (RuleToken.ofText token).name ∈ kind.ruleNames := by
  rw [RuleToken.name_of_text, Text.trim, String.toList_ofList]
  unfold ofToken? at h
  split at h <;> cases h <;> simp_all [ruleNames]

/-- A value that passes a rule asking for a kind is taken for one of the kind. -/
theorem passes_of_token_failure [Libraries] {kind : ValueKind} {numeric : Bool} {field : String}
    {value : Json} {token : RuleToken} (hname : token.name ∈ kind.ruleNames)
    (h : Validator.tokenFailure numeric field value token = none) : kind.passes value = true := by
  unfold Validator.tokenFailure at h
  cases kind with
  | integer =>
      rcases List.mem_pair.mp hname with hname | hname <;> rw [hname] at h <;>
        exact Validator.message_unless_eq_none_iff.mp h
  | number =>
      rcases List.mem_pair.mp hname with hname | hname <;> rw [hname] at h <;>
        exact Validator.message_unless_eq_none_iff.mp h
  | boolean =>
      rcases List.mem_pair.mp hname with hname | hname <;> rw [hname] at h <;>
        exact Validator.message_unless_eq_none_iff.mp h
  | _ => rfl

/-! ## Coercion of what passes -/

/-- A text that writes no infinity and no not-a-number. -/
def WritesFinite (text : String) : Prop :=
  ∀ double, Numeral.double? (Text.trimChars text.toList) = some double → double.isFinite = true

theorem coerce_integer {text : String} (h : Validator.isInteger (.string text) = true) :
    Typed .integer (coerce .integer (.string text)) := by
  obtain ⟨integer, hinteger⟩ := Option.isSome_iff_exists.mp h
  exact ⟨integer, by simp [coerce, integerOf?, hinteger, Json.ofInt]⟩

theorem coerce_number {text : String} (h : Validator.isNumeric (.string text) = true)
    (hfinite : WritesFinite text) : Typed .number (coerce .number (.string text)) := by
  obtain ⟨double, hdouble⟩ := Option.isSome_iff_exists.mp h
  cases hinteger : Numeral.signed64? (Text.trimChars text.toList) with
  | some integer =>
      exact ⟨.int integer, by simp [coerce, numberOf?, integerOf?, hinteger, Json.ofInt]⟩
  | none =>
      exact ⟨.double double,
        by simp [coerce, numberOf?, integerOf?, hinteger, hdouble, hfinite double hdouble]⟩

theorem coerce_boolean {text : String} (h : Validator.isBoolean (.string text) = true) :
    Typed .boolean (coerce .boolean (.string text)) := by
  have hword : text ∈ ["0", "1", "true", "false"] := by simpa [Validator.isBoolean] using h
  simp only [List.mem_cons, List.not_mem_nil, or_false] at hword
  rcases hword with rfl | rfl | rfl | rfl
  · exact ⟨false, rfl⟩
  · exact ⟨true, rfl⟩
  · exact ⟨true, rfl⟩
  · exact ⟨false, rfl⟩

/-- A value of the kind is bound as an integer, a double or a truth value. -/
theorem Typed.bound_type {kind : ValueKind} {value : Json} (h : kind.Typed (kind.coerce value)) :
    (Sql.BoundValue.ofKind kind value).typeName ∈ ["INT8", "FLOAT8", "BOOL"] := by
  have hnumber (number : JsonNumber) :
      (Sql.BoundValue.ofJson (.number number)).typeName ∈ ["INT8", "FLOAT8", "BOOL"] := by
    cases hsigned : number.toSigned? with
    | some signed => simp [Sql.BoundValue.ofJson, hsigned, Sql.BoundValue.typeName]
    | none => simp [Sql.BoundValue.ofJson, hsigned, Sql.BoundValue.typeName]
  cases kind with
  | integer =>
      obtain ⟨integer, hinteger⟩ := h
      show (Sql.BoundValue.ofJson (coerce .integer value)).typeName ∈ _
      rw [hinteger]
      exact hnumber _
  | number =>
      obtain ⟨number, hvalue⟩ := h
      show (Sql.BoundValue.ofJson (coerce .number value)).typeName ∈ _
      rw [hvalue]
      exact hnumber number
  | boolean =>
      obtain ⟨truth, htruth⟩ := h
      show (Sql.BoundValue.ofJson (coerce .boolean value)).typeName ∈ _
      rw [htruth]
      exact .tail _ (.tail _ (.head _))
  | _ => exact h.elim

/-! ## Accepted texts -/

/-- The kind of a rule list is named by one of its tokens, text aside. -/
theorem exists_token_of_rules {tokens : List String} (h : ofRules tokens ≠ .text) :
    ∃ token ∈ tokens, ofToken? token = some (ofRules tokens) := by
  cases hfound : tokens.findSome? ofToken? with
  | none => exact absurd (by rw [ofRules, hfound]; rfl) h
  | some kind =>
      obtain ⟨token, htoken, hkind⟩ := List.exists_of_findSome?_eq_some hfound
      exact ⟨token, htoken, by rw [ofRules, hfound, hkind]; rfl⟩

/-- A text without a broken rule is taken for one of the kind of its rules. -/
theorem passes_of_field_failure [Libraries] {field text : String} {tokens : List String}
    (h : Validator.fieldFailure field (some (.string text)) tokens = none)
    (hplain : ∀ token ∈ tokens, ofToken? token = some (ofRules tokens) →
      RuleToken.PlainName token) : (ofRules tokens).passes (.string text) = true := by
  by_cases htext : ofRules tokens = .text
  · rw [htext]
    rfl
  · obtain ⟨token, htoken, hkind⟩ := exists_token_of_rules htext
    have hname := name_mem_of_token hkind
    rw [hplain token htoken hkind] at hname
    exact passes_of_token_failure hname
      (Validator.token_failure_of_field_failure rfl h token htoken)

end ValueKind

/-- A text that is accepted under rules of an integer, a number or a truth value becomes a value of
this kind, and is bound as one. White space between the name of the deciding rule and its colon and
a text that writes an infinity or a not-a-number are excluded. -/
theorem accepted_text_is_typed [Libraries] {data validated : JsonFields} {rules : RuleMap}
    {field text : String} {tokens : List String} (hrules : rules.get? field = some tokens)
    (htext : data.get? field = some (.string text))
    (haccepted : Validator.validate data rules = .ok validated)
    (hkind : ValueKind.ofRules tokens ∈ [ValueKind.integer, .number, .boolean])
    (hplain : ∀ token ∈ tokens, ValueKind.ofToken? token = some (ValueKind.ofRules tokens) →
      RuleToken.PlainName token)
    (hfinite : ValueKind.ofRules tokens = .number → ValueKind.WritesFinite text) :
    let kind := ValueKind.ofRules tokens
    kind.Typed (kind.coerce (.string text)) ∧
      (Sql.BoundValue.ofKind kind (.string text)).typeName ∈ ["INT8", "FLOAT8", "BOOL"] := by
  intro kind
  have hfailure := Validator.validate_ok_iff.mp ⟨validated, haccepted⟩ _ (mem_of_lookup hrules)
  rw [htext] at hfailure
  have hpasses : kind.passes (.string text) = true :=
    ValueKind.passes_of_field_failure hfailure hplain
  have htyped : kind.Typed (kind.coerce (.string text)) := by
    simp only [List.mem_cons, List.not_mem_nil, or_false] at hkind
    rcases hkind with hkind | hkind | hkind
    · rw [show kind = .integer from hkind] at hpasses ⊢
      exact ValueKind.coerce_integer hpasses
    · rw [show kind = .number from hkind] at hpasses ⊢
      exact ValueKind.coerce_number hpasses (hfinite hkind)
    · rw [show kind = .boolean from hkind] at hpasses ⊢
      exact ValueKind.coerce_boolean hpasses
  exact ⟨htyped, htyped.bound_type⟩

open scoped Bundled in
/-- A price with an exponent and white space around it passes three rules and becomes a number. -/
theorem accepted_price_is_typed :
    ValueKind.ofRules ["required", "decimal:2", "min:1"] = .number ∧
      (∃ validated, Validator.validate [("price", .string " +1.5e3 ")]
        (.single "price" ["required", "decimal:2", "min:1"]) = .ok validated) ∧
      ValueKind.Typed .number (ValueKind.coerce .number (.string " +1.5e3 ")) := by
  have hkind : ValueKind.ofRules ["required", "decimal:2", "min:1"] = .number := by decide +kernel
  have haccepted : ∃ validated, Validator.validate [("price", .string " +1.5e3 ")]
      (.single "price" ["required", "decimal:2", "min:1"]) = .ok validated := by
    refine Validator.validate_ok_iff.mpr fun entry hentry => ?_
    obtain rfl := List.mem_singleton.mp hentry
    decide +kernel
  obtain ⟨validated, hvalidated⟩ := haccepted
  have hrules : (RuleMap.single "price" ["required", "decimal:2", "min:1"]).get? "price" =
      some ["required", "decimal:2", "min:1"] := rfl
  obtain ⟨htyped, -⟩ := accepted_text_is_typed hrules rfl hvalidated (by decide +kernel)
    (by decide +kernel) (fun _ double hdouble => by
      obtain rfl := Option.some.inj ((show Numeral.double? _ = some ⟨0x4097700000000000⟩ by
        decide +kernel).symm.trans hdouble)
      decide +kernel)
  exact ⟨hkind, ⟨validated, hvalidated⟩, hkind ▸ htyped⟩

open scoped Bundled in
/-- Under a rule for numbers an infinity is accepted and stays a text. So does any text under a rule
with white space before its colon: the kind comes from it, but it is not checked. -/
theorem accepted_texts_left_as_written :
    ValueKind.ofRules ["numeric"] = .number ∧
      (∃ validated, Validator.validate [("price", .string "inf")] (.single "price" ["numeric"]) =
        .ok validated) ∧
      ValueKind.coerce .number (.string "inf") = .string "inf" ∧
      ValueKind.ofRules ["decimal :2"] = .number ∧
      (∃ validated, Validator.validate [("price", .string "abc")] (.single "price" ["decimal :2"]) =
        .ok validated) ∧
      ValueKind.coerce .number (.string "abc") = .string "abc" := by
  refine ⟨by decide +kernel, ?_, by rfl, by decide +kernel, ?_, by rfl⟩
  · exact Validator.validate_ok_iff.mpr (by decide +kernel)
  · exact Validator.validate_ok_iff.mpr (by decide +kernel)

end EntityGate
