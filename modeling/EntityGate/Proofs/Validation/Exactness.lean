import EntityGate.Library.Bundled
import EntityGate.Proofs.Json.Fields
import EntityGate.Proofs.Validation.RuleMap
import EntityGate.Proofs.Validation.Verdict

/-!
# What the validation accepts and reports

The check of a field stops at the first rule that is broken, and whether texts count as numbers is
read off all of its tokens at once. What is accepted can still be said of the tokens as a set: see
`Acceptable` and `field_failure_eq_none_iff`. The errors hold one message of each field that is not
acceptable, which is what `Breaks` says of it, and the fields that are returned are the ruled ones
alone: see `validation_exact`.
-/

namespace EntityGate

theorem FieldErrors.of_field_add (errors : FieldErrors) (field message name : String) :
    (errors.add field message).ofField name =
      if name = field then some ((errors.ofField field).getD [] ++ [message])
      else errors.ofField name :=
  TextMap.find_insert _ _ _ _

namespace Validator

section Checking

variable [Libraries]

/-! ## Acceptable fields -/

/-- The field lacks a value: it is absent or null, a text without anything but white space, or an
array without items. -/
inductive Blank : Option Json → Prop where
  | absent : Blank none
  | null : Blank (some .null)
  | text {text} : (∀ char ∈ text.toList, Text.isBlank char = true) → Blank (some (.string text))
  | array : Blank (some (.array []))

/-- The value passes the token, where texts count as numbers or by their length. -/
def Passes (numeric : Bool) (value : Json) (token : String) : Prop :=
  ∀ field, tokenFailure numeric field value (RuleToken.ofText token) = none

/-- The field is not both required and blank, and it is absent, or null where null will do, or
passes each of the tokens. -/
structure AcceptableAs (numeric : Bool) (value : Option Json) (tokens : List String) : Prop where
  filled : "required" ∈ tokens → ¬Blank value
  passes : value = none ∨ (value = some .null ∧ "nullable" ∈ tokens) ∨
    ∃ present, value = some present ∧ ∀ token ∈ tokens, Passes numeric present token

/-- The field is acceptable under its tokens, of which some make texts count as numbers. -/
def Acceptable (value : Option Json) (tokens : List String) : Prop :=
  AcceptableAs (isNumericField tokens) value tokens

variable {numeric : Bool} {field message : String} {value : Option Json} {tokens : List String}

/-- What is acceptable depends on which of the two tokens about missing values are there and on
whether a value that is there passes all tokens. -/
theorem acceptable_as_congr {other : Bool} {others : List String}
    (hrequired : "required" ∈ others ↔ "required" ∈ tokens)
    (hnullable : "nullable" ∈ others ↔ "nullable" ∈ tokens)
    (hpasses : ∀ present, value = some present →
      ((∀ token ∈ others, Passes other present token) ↔
        ∀ token ∈ tokens, Passes numeric present token)) :
    AcceptableAs other value others ↔ AcceptableAs numeric value tokens := by
  have hpassing : (∃ present, value = some present ∧ ∀ token ∈ others, Passes other present token) ↔
      ∃ present, value = some present ∧ ∀ token ∈ tokens, Passes numeric present token :=
    exists_congr fun present => and_congr_right (hpasses present)
  constructor
  · rintro ⟨hfilled, hpasses⟩
    rw [hrequired] at hfilled
    rw [hnullable, hpassing] at hpasses
    exact ⟨hfilled, hpasses⟩
  · rintro ⟨hfilled, hpasses⟩
    rw [← hrequired] at hfilled
    rw [← hnullable, ← hpassing] at hpasses
    exact ⟨hfilled, hpasses⟩

omit [Libraries] in
theorem is_blank_value_iff : isBlankValue value = true ↔ Blank value := by
  constructor
  · intro h
    match value with
    | none => exact .absent
    | some .null => exact .null
    | some (.string text) => exact .text (List.all_eq_true.mp h)
    | some (.array items) =>
        obtain rfl := List.isEmpty_iff.mp h
        exact .array
    | some (.bool _) | some (.number _) | some (.object _) => cases h
  · intro h
    cases h with
    | absent | null | array => rfl
    | text hblank => exact List.all_eq_true.mpr hblank

omit [Libraries] in
theorem size_failure_field (numeric : Bool) (field other name : String) (argument : Option String)
    (value : Json) : sizeFailure numeric field name argument value = none ↔
      sizeFailure numeric other name argument value = none := by
  simp [sizeFailure, Option.bind_eq_none_iff]

theorem token_failure_field (numeric : Bool) (field other : String) (value : Json)
    (token : RuleToken) : tokenFailure numeric field value token = none ↔
      tokenFailure numeric other value token = none := by
  unfold tokenFailure
  split <;> simp only [message_unless_eq_none_iff, size_failure_field numeric field other]

theorem passes_iff {value : Json} {token : String} : Passes numeric value token ↔
    tokenFailure numeric field value (RuleToken.ofText token) = none :=
  ⟨fun h => h field, fun h other => (token_failure_field numeric field other value _).mp h⟩

/-! ## The first broken rule -/

theorem field_failure_of_blank (hrequired : "required" ∈ tokens) (hblank : Blank value) :
    fieldFailure field value tokens = some ("The " ++ field ++ " field is required.") :=
  if_pos (Bool.and_eq_true_iff.mpr
    ⟨List.contains_iff_mem.mpr hrequired, is_blank_value_iff.mpr hblank⟩)

/-- A field that is not both required and blank is checked token by token if it is there, unless it
is null and null will do. -/
theorem field_failure_of_filled (hfilled : "required" ∈ tokens → ¬Blank value) :
    fieldFailure field value tokens = value.bind fun present =>
      if present.isNull ∧ "nullable" ∈ tokens then none
      else tokens.findSome? fun token =>
        tokenFailure (isNumericField tokens) field present (RuleToken.ofText token) := by
  have hpasses : ¬(tokens.contains "required" && isBlankValue value) = true := fun h => by
    obtain ⟨hrequired, hblank⟩ := Bool.and_eq_true_iff.mp h
    exact hfilled (List.contains_iff_mem.mp hrequired) (is_blank_value_iff.mp hblank)
  cases value with
  | none => exact if_neg hpasses
  | some present =>
      simp only [fieldFailure, hpasses, Bool.false_eq_true, if_false, Bool.and_eq_true,
        List.contains_iff_mem, Option.bind_some]

/-- A field breaks no rule exactly if it is acceptable. -/
theorem field_failure_eq_none_iff :
    fieldFailure field value tokens = none ↔ Acceptable value tokens := by
  by_cases hfilled : "required" ∈ tokens → ¬Blank value
  · have hpassing (present : Json) : (tokens.findSome? fun token =>
        tokenFailure (isNumericField tokens) field present (RuleToken.ofText token)) = none ↔
          ∀ token ∈ tokens, Passes (isNumericField tokens) present token :=
      List.findSome?_eq_none_iff.trans (forall₂_congr fun _ _ => passes_iff.symm)
    rw [field_failure_of_filled hfilled]
    cases value with
    | none => exact iff_of_true rfl ⟨hfilled, .inl rfl⟩
    | some present =>
        rw [Option.bind_some]
        split_ifs with hnull
        · refine iff_of_true rfl ⟨hfilled, .inr (.inl ⟨?_, hnull.2⟩)⟩
          cases present with
          | null => rfl
          | _ => cases hnull.1
        · rw [hpassing]
          refine ⟨fun h => ⟨hfilled, .inr (.inr ⟨present, rfl, h⟩)⟩, fun h => ?_⟩
          rcases h.passes with habsent | ⟨hpresent, hnullable⟩ | ⟨_, hpresent, hpasses⟩
          · cases habsent
          · cases hpresent
            exact (hnull ⟨rfl, hnullable⟩).elim
          · cases hpresent
            exact hpasses
  · obtain ⟨hrequired, hblank⟩ := Classical.not_imp.mp hfilled
    rw [not_not] at hblank
    rw [field_failure_of_blank hrequired hblank]
    exact iff_of_false nofun fun h => hfilled h.filled

/-- What is said about a field that is not acceptable: that it is required, or else what the first
token says that it does not pass. -/
inductive Breaks (field : String) (value : Option Json) (tokens : List String) : String → Prop where
  | required : "required" ∈ tokens → Blank value →
      Breaks field value tokens ("The " ++ field ++ " field is required.")
  | token {present before token after message} : ("required" ∈ tokens → ¬Blank value) →
      value = some present → (present.isNull = true → "nullable" ∉ tokens) →
      tokens = before ++ token :: after →
      (∀ earlier ∈ before, Passes (isNumericField tokens) present earlier) →
      tokenFailure (isNumericField tokens) field present (RuleToken.ofText token) = some message →
      Breaks field value tokens message

theorem field_failure_eq_some_iff :
    fieldFailure field value tokens = some message ↔ Breaks field value tokens message := by
  constructor
  · intro h
    by_cases hfilled : "required" ∈ tokens → ¬Blank value
    · rw [field_failure_of_filled hfilled] at h
      cases value with
      | none => cases h
      | some present =>
          rw [Option.bind_some] at h
          split_ifs at h with hnull
          obtain ⟨before, token, after, hsplit, hfailure, hbefore⟩ :=
            List.findSome?_eq_some_iff.mp h
          exact .token hfilled rfl (fun hisNull hnullable => hnull ⟨hisNull, hnullable⟩) hsplit
            (fun earlier hearlier => passes_iff.mpr (hbefore earlier hearlier)) hfailure
    · obtain ⟨hrequired, hblank⟩ := Classical.not_imp.mp hfilled
      rw [not_not] at hblank
      cases h.symm.trans (field_failure_of_blank hrequired hblank)
      exact .required hrequired hblank
  · intro h
    cases h with
    | required hrequired hblank => exact field_failure_of_blank hrequired hblank
    | @token present before token after _ hfilled hvalue hnull hsplit hbefore hfailure =>
        subst hvalue
        rw [field_failure_of_filled hfilled]
        have hnone : ¬(present.isNull = true ∧ "nullable" ∈ tokens) := fun h => hnull h.1 h.2
        rw [Option.bind_some, if_neg hnone]
        exact List.findSome?_eq_some_iff.mpr ⟨before, token, after, hsplit, hfailure,
          fun earlier hearlier => passes_iff.mp (hbefore earlier hearlier)⟩

/-- Something is said about a field exactly if it is not acceptable. -/
theorem exists_breaks_iff : (∃ message, Breaks field value tokens message) ↔
    ¬Acceptable value tokens := by
  simp only [← field_failure_eq_some_iff]
  rw [← Option.ne_none_iff_exists', ne_eq, field_failure_eq_none_iff]

/-! ## The errors of all fields -/

variable {data : JsonFields}

/-- The first field with something to say about it gives the headline. -/
theorem first_foldl_noting (entries : List (String × List String)) (errors : FieldErrors) :
    (entries.foldl (noting data) errors).first = errors.first.or
      (entries.findSome? fun entry => fieldFailure entry.1 (data.get? entry.1) entry.2) := by
  induction entries generalizing errors with
  | nil => simp
  | cons entry rest ih =>
      rw [List.foldl_cons, ih, List.findSome?_cons]
      cases hfailure : fieldFailure entry.1 (data.get? entry.1) entry.2 with
      | none => simp [noting, hfailure]
      | some message =>
          cases hfirst : errors.first <;> simp [noting, hfailure, FieldErrors.add, hfirst]

theorem of_field_noting_of_ne {entry : String × List String} {name : String} (h : name ≠ entry.1)
    (errors : FieldErrors) : (noting data errors entry).ofField name = errors.ofField name := by
  unfold noting
  split
  · rw [FieldErrors.of_field_add, if_neg h]
  · rfl

theorem of_field_noting_self {entry : String × List String} {errors : FieldErrors}
    (hnew : errors.ofField entry.1 = none) : (noting data errors entry).ofField entry.1 =
      (fieldFailure entry.1 (data.get? entry.1) entry.2).map fun message => [message] := by
  cases hfailure : fieldFailure entry.1 (data.get? entry.1) entry.2 with
  | none => simp only [noting, hfailure, hnew, Option.map_none]
  | some message =>
      simp only [noting, hfailure, FieldErrors.of_field_add, hnew, if_true, Option.getD_none,
        List.nil_append, Option.map_some]

/-- Distinct fields leave each other's messages alone, so that a field has at most one. -/
theorem of_field_foldl_noting {entries : List (String × List String)}
    (hnodup : (entries.map Prod.fst).Nodup) {errors : FieldErrors}
    (hnew : ∀ name ∈ entries.map Prod.fst, errors.ofField name = none) (name : String) :
    (entries.foldl (noting data) errors).ofField name =
      match entries.lookup name with
      | some tokens => (fieldFailure name (data.get? name) tokens).map fun message => [message]
      | none => errors.ofField name := by
  induction entries generalizing errors with
  | nil => rfl
  | cons entry rest ih =>
      rw [List.map_cons, List.nodup_cons] at hnodup
      rw [List.map_cons, List.forall_mem_cons] at hnew
      have hnew' :
          ∀ other ∈ rest.map Prod.fst, (noting data errors entry).ofField other = none := by
        intro other hother
        have hne : other ≠ entry.1 := fun heq => hnodup.1 (heq ▸ hother)
        rw [of_field_noting_of_ne hne]
        exact hnew.2 other hother
      rw [List.foldl_cons, ih hnodup.2 hnew', lookup_cons_entry rest entry.1 name entry.2]
      split_ifs with hname
      · have hnone : rest.lookup entry.1 = none := by
          rw [List.lookup_eq_none_iff]
          intro other hother
          exact bne_iff_ne.mpr fun heq => hnodup.1 (List.mem_map.mpr ⟨other, hother, heq.symm⟩)
        subst hname
        simp only [hnone, of_field_noting_self hnew.1]
      · simp only [of_field_noting_of_ne hname]

/-! ## What is accepted and what is reported -/

/-- The ruled fields that are present, unchanged and in the order of the rule map. -/
structure Selects (data : JsonFields) (rules : RuleMap) (validated : JsonFields) : Prop where
  fields : validated.map Prod.fst = rules.keys.filter fun field => (data.get? field).isSome
  unchanged : ∀ field ∈ rules.keys, validated.get? field = data.get? field

/-- One message for each field that is not acceptable, what is said about the first of them being
the headline, and none for any other field. -/
structure Reports (data : JsonFields) (rules : RuleMap) (errors : FieldErrors) : Prop where
  refused : ∀ entry ∈ rules.entries, ¬Acceptable (data.get? entry.1) entry.2 →
    ∃ message, Breaks entry.1 (data.get? entry.1) entry.2 message ∧
      errors.ofField entry.1 = some [message]
  accepted : ∀ entry ∈ rules.entries, Acceptable (data.get? entry.1) entry.2 →
    errors.ofField entry.1 = none
  unruled : ∀ field ∉ rules.keys, errors.ofField field = none
  headline : ∃ before entry after message, rules.entries = before ++ entry :: after ∧
    (∀ earlier ∈ before, Acceptable (data.get? earlier.1) earlier.2) ∧
    Breaks entry.1 (data.get? entry.1) entry.2 message ∧ errors.first = some message

/-- The same fields in any order, each with the same tokens in any order and number. -/
def Rearranged (rules other : RuleMap) : Prop :=
  ∃ entries, rules.entries.Perm entries ∧
    List.Forall₂ (fun entry changed => changed.1 = entry.1 ∧
      ∀ token, token ∈ changed.2 ↔ token ∈ entry.2) entries other.entries

variable {rules : RuleMap}

theorem validate_accepts_iff : (∃ validated, validate data rules = .ok validated) ↔
    ∀ entry ∈ rules.entries, Acceptable (data.get? entry.1) entry.2 :=
  validate_ok_iff.trans (forall₂_congr fun _ _ => field_failure_eq_none_iff)

/-! ### The accepted fields -/

omit [Libraries] in
theorem keys_validated_fields (data : JsonFields) (rules : RuleMap) :
    (validatedFields data rules).map Prod.fst =
      rules.keys.filter fun field => (data.get? field).isSome := by
  simp only [validatedFields, RuleMap.keys]
  induction rules.entries with
  | nil => rfl
  | cons entry rest ih =>
      simp only [List.filterMap_cons, List.map_cons, List.filter_cons]
      cases data.get? entry.1 with
      | none => exact ih
      | some value => exact congrArg (entry.1 :: ·) ih

omit [Libraries] in
theorem get_validated_fields (data : JsonFields) (rules : RuleMap) (field : String) :
    (validatedFields data rules).get? field =
      if field ∈ rules.keys then data.get? field else none := by
  change JsonFields.get? (rules.entries.filterMap _) field =
    if field ∈ rules.entries.map Prod.fst then data.get? field else none
  induction rules.entries with
  | nil => rfl
  | cons entry rest ih =>
      simp only [List.filterMap_cons, List.map_cons, List.mem_cons]
      by_cases hfield : field = entry.1
      · subst hfield
        cases hvalue : data.get? entry.1 with
        | none => simp only [Option.map_none, ih, hvalue, ite_self]
        | some value =>
            simp only [Option.map_some, JsonFields.get_cons, if_true, true_or]
      · simp only [hfield, false_or]
        cases data.get? entry.1 with
        | none => exact ih
        | some value => simpa only [Option.map_some, JsonFields.get_cons, hfield, if_false] using ih

theorem selects_of_validate {validated : JsonFields} (h : validate data rules = .ok validated) :
    Selects data rules validated := by
  simp only [validate] at h
  split at h
  · cases h
    refine ⟨keys_validated_fields data rules, fun field hfield => ?_⟩
    exact (get_validated_fields data rules field).trans (if_pos hfield)
  · cases h

/-! ### The reported errors -/

theorem of_field_errors_of (data : JsonFields) (rules : RuleMap) (field : String) :
    (errorsOf data rules).ofField field =
      match rules.get? field with
      | some tokens => (fieldFailure field (data.get? field) tokens).map fun message => [message]
      | none => none :=
  of_field_foldl_noting rules.nodup (fun _ _ => rfl) field

theorem of_field_errors_of_mem {entry : String × List String}
    (hentry : entry ∈ rules.entries) : (errorsOf data rules).ofField entry.1 =
      (fieldFailure entry.1 (data.get? entry.1) entry.2).map fun message => [message] := by
  have htokens : rules.get? entry.1 = some entry.2 := lookup_of_mem rules.nodup hentry
  rw [of_field_errors_of, htokens]

theorem first_errors_of (data : JsonFields) (rules : RuleMap) : (errorsOf data rules).first =
    rules.entries.findSome? fun entry => fieldFailure entry.1 (data.get? entry.1) entry.2 :=
  (first_foldl_noting rules.entries FieldErrors.none).trans Option.none_or

/-- The headline is what is said about the first field that is not acceptable. -/
theorem first_errors_of_eq_some_iff : (errorsOf data rules).first = some message ↔
    ∃ before entry after, rules.entries = before ++ entry :: after ∧
      (∀ earlier ∈ before, Acceptable (data.get? earlier.1) earlier.2) ∧
      Breaks entry.1 (data.get? entry.1) entry.2 message := by
  rw [first_errors_of, List.findSome?_eq_some_iff]
  simp only [field_failure_eq_some_iff, field_failure_eq_none_iff]
  exact exists_congr fun _ => exists_congr fun _ => exists_congr fun _ =>
    and_congr_right fun _ => and_comm

/-- Errors are returned only if there are some. -/
theorem errors_of_validate {errors : FieldErrors} (h : validate data rules = .error errors) :
    errors = errorsOf data rules ∧
      ∃ entry ∈ rules.entries, ¬Acceptable (data.get? entry.1) entry.2 := by
  constructor
  · simp only [validate] at h
    split at h
    · cases h
    · exact (Except.error.inj h).symm
  · by_contra hnone
    push Not at hnone
    obtain ⟨validated, hvalidated⟩ := validate_accepts_iff.mpr hnone
    cases h.symm.trans hvalidated

theorem reports_of_validate {errors : FieldErrors}
    (h : validate data rules = .error errors) : Reports data rules errors := by
  obtain ⟨rfl, unacceptable, hentry, hunacceptable⟩ := errors_of_validate h
  refine ⟨fun entry hentry hunacceptable => ?_, fun entry hentry hacceptable => ?_,
    fun field hfield => ?_, ?_⟩
  · obtain ⟨message, hbreaks⟩ := exists_breaks_iff.mpr hunacceptable
    refine ⟨message, hbreaks, ?_⟩
    rw [of_field_errors_of_mem hentry, field_failure_eq_some_iff.mpr hbreaks,
      Option.map_some]
  · rw [of_field_errors_of_mem hentry, field_failure_eq_none_iff.mpr hacceptable,
      Option.map_none]
  · have hunruled : rules.get? field = none := by
      rw [← Option.not_isSome_iff_eq_none]
      exact fun hruled => hfield (RuleMap.contains_iff_mem_keys.mp hruled)
    rw [of_field_errors_of, hunruled]
  · have hfirst : (errorsOf data rules).first ≠ none := fun hnone => by
      rw [first_errors_of, List.findSome?_eq_none_iff] at hnone
      exact hunacceptable (field_failure_eq_none_iff.mp (hnone unacceptable hentry))
    obtain ⟨message, hmessage⟩ := Option.ne_none_iff_exists'.mp hfirst
    obtain ⟨before, entry, after, hsplit, hbefore, hbreaks⟩ :=
      first_errors_of_eq_some_iff.mp hmessage
    exact ⟨before, entry, after, message, hsplit, hbefore, hbreaks, hmessage⟩

/-! ### Other orders -/

/-- It does not matter how often and in which order the tokens come. -/
theorem acceptable_of_same_tokens {tokens changed : List String}
    (h : ∀ token, token ∈ changed ↔ token ∈ tokens) :
    Acceptable value changed ↔ Acceptable value tokens := by
  have hnumeric : isNumericField changed = isNumericField tokens := by
    rw [Bool.eq_iff_iff]
    simp only [isNumericField, Bool.or_eq_true, List.contains_iff_mem, h]
  rw [Acceptable, hnumeric]
  exact acceptable_as_congr (h "required") (h "nullable") fun _ _ =>
    forall_congr' fun token => imp_congr_left (h token)

/-- Neither the order of the fields nor that of their tokens matters to what is accepted, and of the
data only the ruled fields do. -/
theorem accepts_rearranged_iff {other : RuleMap} {otherData : JsonFields}
    (hdata : ∀ field ∈ rules.keys, otherData.get? field = data.get? field)
    (hrules : Rearranged rules other) :
    (∃ validated, validate otherData other = .ok validated) ↔
      ∃ validated, validate data rules = .ok validated := by
  obtain ⟨entries, hperm, hchanged⟩ := hrules
  have hentries : ∀ entry ∈ entries, otherData.get? entry.1 = data.get? entry.1 :=
    fun entry hentry => hdata _ (List.mem_map_of_mem (hperm.mem_iff.mpr hentry))
  simp only [validate_accepts_iff, hperm.mem_iff]
  clear hperm
  generalize other.entries = otherEntries at hchanged
  induction hchanged with
  | nil => simp
  | @cons entry changed rest changedRest hentry _ ih =>
      rw [List.forall_mem_cons] at hentries
      rw [List.forall_mem_cons, List.forall_mem_cons, hentry.1, hentries.1,
        acceptable_of_same_tokens hentry.2]
      exact and_congr_right fun _ => ih hentries.2

/-- Data are accepted exactly if each ruled field is acceptable. What is returned then are the ruled
fields of the data, unchanged, and otherwise one message for each field that is not acceptable, with
that of the first such field as the headline. Which order the fields and their tokens are in, and
how often a token is repeated, does not matter to what is accepted. -/
theorem validation_exact (data : JsonFields) (rules : RuleMap) :
    ((∃ validated, validate data rules = .ok validated) ↔
        ∀ entry ∈ rules.entries, Acceptable (data.get? entry.1) entry.2) ∧
      (∀ validated, validate data rules = .ok validated → Selects data rules validated) ∧
      (∀ errors, validate data rules = .error errors → Reports data rules errors) ∧
      ∀ otherData other, (∀ field ∈ rules.keys, otherData.get? field = data.get? field) →
        Rearranged rules other →
        ((∃ validated, validate otherData other = .ok validated) ↔
          ∃ validated, validate data rules = .ok validated) :=
  ⟨validate_accepts_iff, fun _ => selects_of_validate, fun _ => reports_of_validate,
    fun _ _ => accepts_rearranged_iff⟩

end Checking

open scoped Bundled in
/-- Of an article with a blank title and too many views both are reported, the views first, and the
secret not at all. A good article passes without its secret, and also under the same rules in
another order, one of them repeated. -/
theorem validation_exact_of_articles :
    let rules : RuleMap := .ofList [("views", ["nullable", "integer", "max:9"]),
      ("title", ["required", "string"]), ("slug", ["alpha_dash"])]
    let other : RuleMap := .ofList [("title", ["string", "required", "string"]),
      ("slug", ["alpha_dash"]), ("views", ["max:9", "integer", "nullable"])]
    let bad : JsonFields := [("title", .string "  "), ("views", .string "12"),
      ("secret", .bool true)]
    let good : JsonFields := [("title", .string "News"), ("views", .string "7"),
      ("secret", .bool true)]
    (∃ errors, validate bad rules = .error errors ∧ Reports bad rules errors ∧
        errors.first = some "The views field must not be greater than 9." ∧
        errors.ofField "title" = some ["The title field is required."] ∧
        errors.ofField "slug" = none) ∧
      (∃ validated, validate good rules = .ok validated ∧ Selects good rules validated) ∧
      Rearranged rules other ∧ ∃ validated, validate good other = .ok validated := by
  intro rules other bad good
  obtain ⟨-, -, hreports, -⟩ := validation_exact bad rules
  obtain ⟨-, hselects, -, hother⟩ := validation_exact good rules
  have hbad : validate bad rules = .error (errorsOf bad rules) := by
    have hempty : (errorsOf bad rules).isEmpty = false := by decide +kernel
    simp only [validate, hempty, Bool.false_eq_true, if_false]
  have hgood : validate good rules = .ok (validatedFields good rules) := by
    have hempty : (errorsOf good rules).isEmpty = true := by decide +kernel
    simp only [validate, hempty, if_true]
  have hrearranged : Rearranged rules other := by
    refine ⟨[("title", ["required", "string"]), ("slug", ["alpha_dash"]),
      ("views", ["nullable", "integer", "max:9"])], by decide, ?_⟩
    refine .cons ⟨rfl, fun _ => ?_⟩ (.cons ⟨rfl, fun _ => Iff.rfl⟩ (.cons ⟨rfl, fun _ => ?_⟩ .nil))
    · simp only [List.mem_cons, List.not_mem_nil, or_false]
      tauto
    · simp only [List.mem_cons, List.not_mem_nil, or_false]
      tauto
  refine ⟨⟨_, hbad, hreports _ hbad, ?_, ?_, ?_⟩, ⟨_, hgood, hselects _ hgood⟩,
    hrearranged, (hother good other (fun _ _ => rfl) hrearranged).mpr ⟨_, hgood⟩⟩
  · decide +kernel
  · decide +kernel
  · decide +kernel

end Validator

end EntityGate
