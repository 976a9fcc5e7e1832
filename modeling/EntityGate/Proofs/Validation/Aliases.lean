import EntityGate.Proofs.Validation.Exactness
import Mathlib.Data.List.Forall2

/-!
# Rules that go by two names

An integer, a number and a truth value are each asked for by two rules of the same meaning. The kind
of a field and the check of a single token do not tell them apart. Whether texts count as numbers
does: it goes by one of the two names only, so that exchanging names leaves the acceptance of a
field as it is, except that its texts may now be measured otherwise: see `exchanged_names_accepted`,
and `exchanged_names_measured` for what happens to a text under a limit.
-/

namespace EntityGate

namespace Rules

/-- Each rule that has a second name, with that name before its first one. -/
def aliases : List (String × String) :=
  [("int", "integer"), ("decimal", "numeric"), ("bool", "boolean")]

/-- Some tokens that are second names give way to the first names, each in its place. -/
def Exchanged : List String → List String → Prop :=
  List.Forall₂ fun token other => other = token ∨ (token, other) ∈ aliases

/-- The rules that measure a value. -/
def limits : List String := ["min", "max", "size"]

variable {tokens others : List String}

/-- A token that is no second name stays. -/
theorem mem_of_exchanged (h : Exchanged tokens others) {name : String}
    (hname : ∀ pair ∈ aliases, name ≠ pair.1) (hmem : name ∈ tokens) : name ∈ others := by
  induction h with
  | nil => exact hmem
  | @cons token other rest otherRest htoken _ ih =>
      rcases List.mem_cons.mp hmem with rfl | hrest
      · rcases htoken with rfl | halias
        · exact List.mem_cons_self
        · exact (hname _ halias rfl).elim
      · exact List.mem_cons_of_mem _ (ih hrest)

/-- A token that is neither name of a rule with two was there before. -/
theorem mem_exchanged_iff (h : Exchanged tokens others) {name : String}
    (hname : ∀ pair ∈ aliases, name ≠ pair.1 ∧ name ≠ pair.2) : name ∈ others ↔ name ∈ tokens := by
  refine ⟨fun hmem => ?_, mem_of_exchanged h fun pair hpair => (hname pair hpair).1⟩
  induction h with
  | nil => exact hmem
  | @cons token other rest otherRest htoken _ ih =>
      rcases List.mem_cons.mp hmem with rfl | hrest
      · rcases htoken with rfl | halias
        · exact List.mem_cons_self
        · exact ((hname _ halias).2 rfl).elim
      · exact List.mem_cons_of_mem _ (ih hrest)

end Rules

/-- The kind of a field does not depend on which of two names its rules have. -/
theorem ValueKind.of_rules_exchanged {tokens others : List String}
    (h : Rules.Exchanged tokens others) : ofRules others = ofRules tokens := by
  have hfound : others.findSome? ofToken? = tokens.findSome? ofToken? := by
    induction h with
    | nil => rfl
    | @cons token other rest otherRest htoken _ ih =>
        have hkind : ofToken? other = ofToken? token := by
          rcases htoken with rfl | halias
          · rfl
          · revert halias
            exact (show ∀ pair ∈ Rules.aliases, ofToken? pair.2 = ofToken? pair.1 by decide) _
        rw [List.findSome?_cons, List.findSome?_cons, hkind, ih]
  rw [ofRules, hfound, ofRules]

namespace Validator

section Checking

variable [Libraries] {numeric : Bool} {value : Option Json} {tokens others : List String}

/-- The two names of a rule ask for the same. -/
theorem token_failure_alias {pair : String × String} (h : pair ∈ Rules.aliases) (numeric : Bool)
    (field : String) (value : Json) :
    tokenFailure numeric field value (RuleToken.ofText pair.2) =
      tokenFailure numeric field value (RuleToken.ofText pair.1) := by
  have hplain : ∀ pair ∈ Rules.aliases, RuleToken.ofText pair.1 = ⟨pair.1, none⟩ ∧
      RuleToken.ofText pair.2 = ⟨pair.2, none⟩ := by decide
  obtain ⟨hfirst, hsecond⟩ := hplain pair h
  rw [hfirst, hsecond]
  simp only [Rules.aliases, List.mem_cons, List.not_mem_nil, or_false] at h
  rcases h with rfl | rfl | rfl
  · rfl
  · rfl
  · rfl

theorem passes_exchanged_iff (h : Rules.Exchanged tokens others) {present : Json} :
    (∀ token ∈ others, Passes numeric present token) ↔
      ∀ token ∈ tokens, Passes numeric present token := by
  induction h with
  | nil => rfl
  | @cons token other rest otherRest htoken _ ih =>
      have hpasses : Passes numeric present other ↔ Passes numeric present token := by
        rcases htoken with rfl | halias
        · rfl
        · exact forall_congr' fun field => by rw [token_failure_alias halias]
      rw [List.forall_mem_cons, List.forall_mem_cons, hpasses, ih]

/-- An exchange of names changes nothing as long as texts count as before. -/
theorem acceptable_as_exchanged_iff (h : Rules.Exchanged tokens others) :
    AcceptableAs numeric value others ↔ AcceptableAs numeric value tokens :=
  acceptable_as_congr (Rules.mem_exchanged_iff h (by decide))
    (Rules.mem_exchanged_iff h (by decide))
    fun _ _ => passes_exchanged_iff h

/-! ## Where it does not matter whether texts count as numbers -/

omit [Libraries] in
theorem measure_of_no_text {value : Json} (h : ∀ text, value ≠ .string text) (other : Bool) :
    measure? numeric value = measure? other value := by
  cases value with
  | string text => exact (h text rfl).elim
  | _ => rfl

theorem token_failure_of_no_text {value : Json} (h : ∀ text, value ≠ .string text) (other : Bool)
    (field : String) (token : RuleToken) :
    tokenFailure numeric field value token = tokenFailure other field value token := by
  unfold tokenFailure sizeFailure
  rw [measure_of_no_text h other]

theorem token_failure_of_no_limit {token : RuleToken} (h : token.name ∉ Rules.limits)
    (other : Bool) (field : String) (value : Json) :
    tokenFailure numeric field value token = tokenFailure other field value token := by
  simp only [Rules.limits, List.mem_cons, List.not_mem_nil, or_false, not_or] at h
  obtain ⟨hmin, hmax, hsize⟩ := h
  unfold tokenFailure
  split <;> first | rfl | contradiction

/-- Whether texts count as numbers matters only to a text under a limit. -/
theorem acceptable_as_of_unmeasured (other : Bool)
    (h : (∀ text, value ≠ some (.string text)) ∨
      ∀ token ∈ tokens, (RuleToken.ofText token).name ∉ Rules.limits) :
    AcceptableAs numeric value tokens ↔ AcceptableAs other value tokens := by
  refine acceptable_as_congr Iff.rfl Iff.rfl fun present hpresent => ?_
  refine forall₂_congr fun token htoken => forall_congr' fun field => ?_
  rcases h with hnoText | hnoLimit
  · have hpresent' : ∀ text, present ≠ .string text := by
      rintro text rfl
      exact hnoText text hpresent
    rw [token_failure_of_no_text hpresent' other]
  · rw [token_failure_of_no_limit (hnoLimit token htoken) other]

/-! ## Acceptance after an exchange -/

theorem validate_alone_iff {data : JsonFields} {field : String} :
    (∃ validated, validate data (.single field tokens) = .ok validated) ↔
      Acceptable (data.get? field) tokens :=
  validate_accepts_iff.trans List.forall_mem_singleton

omit [Libraries] in
/-- Texts that count as numbers still do after an exchange. -/
theorem is_numeric_field_of_exchanged (h : Rules.Exchanged tokens others)
    (hnumeric : isNumericField tokens = true) : isNumericField others = true := by
  simp only [isNumericField, Bool.or_eq_true, List.contains_iff_mem] at hnumeric ⊢
  exact hnumeric.imp (Rules.mem_of_exchanged h (by decide)) (Rules.mem_of_exchanged h (by decide))

/-- Exchanging names keeps the kind of a field. The field is accepted under the new names exactly if
it is acceptable under the old ones with its texts measured as the new ones have it: as before,
unless the field holds a text, the rules set a limit and texts come to count as numbers. -/
theorem exchanged_names_accepted (h : Rules.Exchanged tokens others) (data : JsonFields)
    (field : String) :
    ValueKind.ofRules others = ValueKind.ofRules tokens ∧
      ((∃ validated, validate data (.single field others) = .ok validated) ↔
        AcceptableAs (isNumericField others) (data.get? field) tokens) ∧
      (isNumericField tokens = true ∨ isNumericField others = false ∨
          (∀ text, data.get? field ≠ some (.string text)) ∨
          (∀ token ∈ tokens, (RuleToken.ofText token).name ∉ Rules.limits) →
        ((∃ validated, validate data (.single field others) = .ok validated) ↔
          ∃ validated, validate data (.single field tokens) = .ok validated)) := by
  have haccepted : (∃ validated, validate data (.single field others) = .ok validated) ↔
      AcceptableAs (isNumericField others) (data.get? field) tokens :=
    validate_alone_iff.trans (acceptable_as_exchanged_iff h)
  refine ⟨ValueKind.of_rules_exchanged h, haccepted, fun hsteady => ?_⟩
  rw [haccepted, validate_alone_iff, Acceptable]
  rcases hsteady with hnumeric | hnumeric | hunmeasured
  · rw [hnumeric, is_numeric_field_of_exchanged h hnumeric]
  · have htokens : isNumericField tokens = false :=
      Bool.eq_false_iff.mpr fun htrue =>
        Bool.eq_false_iff.mp hnumeric (is_numeric_field_of_exchanged h htrue)
    rw [hnumeric, htokens]
  · exact acceptable_as_of_unmeasured _ hunmeasured

end Checking

open scoped Bundled in
/-- Of two rules for integers beside one for numbers the first gets its other name. -/
theorem exchanged_names_accepted_of_age :
    Rules.Exchanged ["int", "numeric", "min:5", "int"] ["integer", "numeric", "min:5", "int"] ∧
      ValueKind.ofRules ["integer", "numeric", "min:5", "int"] =
        ValueKind.ofRules ["int", "numeric", "min:5", "int"] ∧
      (∃ validated, validate [("age", .string "10")]
        (.single "age" ["int", "numeric", "min:5", "int"]) = .ok validated) ∧
      ∃ validated, validate [("age", .string "10")]
        (.single "age" ["integer", "numeric", "min:5", "int"]) = .ok validated := by
  have hexchanged : Rules.Exchanged ["int", "numeric", "min:5", "int"]
      ["integer", "numeric", "min:5", "int"] :=
    .cons (.inr (by decide)) (.cons (.inl rfl) (.cons (.inl rfl) (.cons (.inl rfl) .nil)))
  obtain ⟨hkind, -, hsame⟩ := exchanged_names_accepted hexchanged [("age", .string "10")] "age"
  have haccepted : ∃ validated, validate [("age", .string "10")]
      (.single "age" ["int", "numeric", "min:5", "int"]) = .ok validated :=
    validate_ok_iff.mpr (by decide +kernel)
  exact ⟨hexchanged, hkind, haccepted, (hsame (.inl (by decide))).mpr haccepted⟩

open scoped Bundled in
/-- Under the second names of the rules for integers and numbers a text is as large as it is long,
under the first ones as the number that it writes: ten is refused by the former, and after names
were exchanged it is accepted. -/
theorem exchanged_names_measured :
    (Rules.Exchanged ["int", "min:5"] ["integer", "min:5"] ∧
        Rules.Exchanged ["decimal", "min:5"] ["numeric", "min:5"]) ∧
      (∀ name ∈ ["int", "decimal"], ¬∃ validated,
        validate [("age", .string "10")] (.single "age" [name, "min:5"]) = .ok validated) ∧
      ∀ name ∈ ["integer", "numeric"], ∃ validated,
        validate [("age", .string "10")] (.single "age" [name, "min:5"]) = .ok validated := by
  simp only [validate_ok_iff]
  refine ⟨⟨?_, ?_⟩, by decide +kernel, by decide +kernel⟩
  · exact .cons (.inr (by decide)) (.cons (.inl rfl) .nil)
  · exact .cons (.inr (by decide)) (.cons (.inl rfl) .nil)

end Validator

end EntityGate
