import EntityGate.Proofs.Sql.Walks

/-!
# Placeholders and bound values

The numbers that a statement draws while it is rendered stand in its text from left to right as
`$1`, `$2` and so on, and nothing else outside of quotes has a dollar sign. The bound values are
those of the conditions, in the order in which a reader meets them, or those of the attributes
followed by the key. See `placeholders_line_up`.
-/

namespace EntityGate

/-! ## Values of predicates -/

namespace Predicate

open Sql (BoundValue)

mutual

/-- The bound forms of the values that a predicate compares with, from left to right. -/
def boundValues : Predicate → List BoundValue
  | .compare _ _ value kind => [.ofKind kind value]
  | .isNull _ _ => []
  | .oneOf _ values kind => values.map (.ofKind kind)
  | .between _ low high kind => [.ofKind kind low, .ofKind kind high]
  | .like _ pattern => [.text pattern]
  | .any alternatives => boundValuesOf alternatives
  | .all conditions => boundValuesOf conditions

/-- The bound forms of the values of predicates, one after the other. -/
def boundValuesOf : List Predicate → List BoundValue
  | [] => []
  | predicate :: rest => boundValues predicate ++ boundValuesOf rest

end

end Predicate

namespace Sql

open Identifier (isDotted segments)
open Statement (parameters tokensFrom charsFrom Spelled)

/-! ## Bound values of a statement -/

theorem parameters_filled (statement : Statement) :
    parameters statement = parameters (filled statement) :=
  filter_map_filled (fun _ => rfl) statement

@[simp] theorem parameters_flat_map {α : Type} (items : List α) (render : α → Statement) :
    parameters (items.flatMap render) = items.flatMap fun item => parameters (render item) :=
  List.filterMap_flatMap ..

theorem parameters_flat_map_eq_nil {α : Type} {render : α → Statement}
    (h : ∀ item, parameters (render item) = []) (items : List α) :
    parameters (items.flatMap render) = [] := by
  rw [parameters_flat_map]
  exact List.flatMap_eq_nil_iff.mpr fun item _ => h item

theorem parameters_map_eq_nil {α : Type} {fragment : α → Fragment}
    (h : ∀ item, Statement.boundValue? (fragment item) = none) (items : List α) :
    parameters (items.map fragment) = [] := by
  rw [parameters, List.filterMap_map]
  exact List.filterMap_eq_nil_iff.mpr fun item _ => h item

@[simp] theorem parameters_values (values : List BoundValue) :
    parameters (values.map .parameter) = values := by
  rw [parameters, List.filterMap_map]
  exact List.filterMap_some ..

@[simp] theorem parameters_table_fragments (table : String) :
    parameters (tableFragments table) = [] :=
  parameters_map_eq_nil (fun _ => rfl) _

@[simp] theorem parameters_field_fragments (field : String) :
    parameters (fieldFragments field) = [] :=
  show parameters ((splitField field).2.map .key) = [] from parameters_map_eq_nil (fun _ => rfl) _

@[simp] theorem parameters_selected_fragments (column : String) :
    parameters (selectedFragments column) = [] := by
  unfold selectedFragments
  split <;> simp

mutual

theorem parameters_condition_fragments (predicate : Predicate) :
    parameters (conditionFragments predicate) = predicate.boundValues := by
  match predicate with
  | .compare .. | .between .. | .like .. => simp [conditionFragments, Predicate.boundValues]
  | .isNull field negated => exact parameters_field_fragments field
  | .oneOf field [] kind => rfl
  | .oneOf field (value :: rest) kind =>
      rw [conditionFragments, Statement.parameters_append, parameters_field_fragments,
        ← Function.comp_def Fragment.parameter, ← List.map_map, parameters_values]
      rfl
  | .any alternatives => exact parameters_conditions_fragments alternatives
  | .all conditions => exact parameters_conditions_fragments conditions
termination_by structural predicate

theorem parameters_conditions_fragments (predicates : List Predicate) :
    parameters (conditionFragmentsOf predicates) = Predicate.boundValuesOf predicates := by
  match predicates with
  | [] => rfl
  | predicate :: rest =>
      rw [conditionFragmentsOf, Statement.parameters_append,
        parameters_condition_fragments predicate, parameters_conditions_fragments rest,
        Predicate.boundValuesOf]
termination_by structural predicates

end

section Parameters

variable {types : ColumnTypes}

@[simp] theorem parameters_placeholder (field : String) (value : Json) (kind : ValueKind) :
    parameters (placeholder types field value kind) = [.ofKind kind value] := by
  rw [parameters_filled, filled_placeholder]
  rfl

@[simp] theorem parameters_qualified_table (table : String) :
    parameters (qualifiedTable table) = [] := (qualified_table_written table).parameters

@[simp] theorem parameters_column_expression (field : String) (kind : ValueKind) :
    parameters (columnExpression field kind) = [] :=
  (column_expression_written field kind).parameters

theorem parameters_render_predicate (predicate : Predicate) :
    parameters (renderPredicate types predicate) = predicate.boundValues := by
  rw [parameters_filled, filled_render_predicate, parameters_condition_fragments]

theorem parameters_select (table : String) (query : SelectQuery) :
    parameters (select types table query) = Predicate.boundValuesOf query.predicates := by
  have hcolumns := parameters_flat_map_eq_nil parameters_selected_fragments query.columns
  have horders := parameters_flat_map_eq_nil
    (fun order : OrderTerm => parameters_field_fragments order.field) query.orders
  rw [parameters_filled, filled_select, Statement.parameters_append, hcolumns,
    Statement.parameters_append, parameters_table_fragments, Statement.parameters_append,
    parameters_conditions_fragments, horders]
  simp

theorem parameters_count (table : String) (query : SelectQuery) :
    parameters (count types table query) = Predicate.boundValuesOf query.predicates := by
  rw [parameters_filled, filled_count]
  simp [parameters_conditions_fragments]

@[simp] theorem parameters_attribute_value (column : String) (value : Json) :
    parameters (attributeValue types column value) = (boundAttribute? value).toList := by
  rw [parameters_filled, filled_attribute_value, valueFragments, parameters_values]

/-- The bound forms of the attributes that are not null. -/
def boundAttributes (attributes : JsonFields) : List BoundValue :=
  attributes.flatMap fun field => (boundAttribute? field.2).toList

theorem parameters_insert (table : String) (attributes : JsonFields) :
    parameters (insert types table attributes) = boundAttributes attributes := by
  have hnames : parameters (attributes.map fun field => .name field.1) = [] :=
    parameters_map_eq_nil (fun _ => rfl) _
  rw [parameters_filled, filled_insert]
  simp [hnames, boundAttributes, valueFragments]

@[simp] theorem parameters_key_condition (primaryKey : String) (key : Json) :
    parameters (keyCondition types primaryKey key) = [.ofKind .text key] := by
  rw [parameters_filled, filled_key_condition]
  rfl

theorem parameters_settings (changes : JsonFields) :
    parameters (settings types changes) = boundAttributes changes := by
  rw [parameters_filled, filled_settings]
  simp [boundAttributes, valueFragments]

theorem parameters_update (table primaryKey : String) (key : Json) (attributes : JsonFields) :
    parameters (update types table primaryKey key attributes) =
      boundAttributes (changesOf primaryKey attributes) ++ [.ofKind .text key] := by
  rw [parameters_filled, filled_update]
  simp [boundAttributes, valueFragments]

theorem parameters_delete (table primaryKey : String) (key : Json) :
    parameters (delete types table primaryKey key) = [.ofKind .text key] := by
  rw [parameters_filled, filled_delete]
  simp

end Parameters

/-! ## Placeholders of a text -/

/-- What a token is made of outside of quotes. -/
def Token.bare : Token → List Char
  | .quoted _ _ => []
  | .word chars => chars
  | .symbol char => [char]

/-- The tokens with a dollar sign outside of quotes. -/
def placeholdersOf (tokens : List Token) : List (List Char) :=
  (tokens.map Token.bare).filter fun chars => chars.contains '$'

/-- The placeholder with a number. -/
def numbered (number : Nat) : List Char := '$' :: Nat.toDigits 10 number

@[simp] theorem placeholders_append (first second : List Token) :
    placeholdersOf (first ++ second) = placeholdersOf first ++ placeholdersOf second := by
  simp [placeholdersOf]

/-- The text has balanced quotes and no dollar sign outside of them. -/
def HasNoPlaceholder (written : String) : Prop :=
  (tokens? written.toList).map placeholdersOf = some []

instance (written : String) : Decidable (HasNoPlaceholder written) :=
  inferInstanceAs (Decidable (_ = _))

/-- Where no text has a placeholder, the parameters are the placeholders, numbered from left to
right. -/
theorem placeholders_tokens_from {statement : Statement} (h : Spelled HasNoPlaceholder statement)
    (number : Nat) :
    placeholdersOf (tokensFrom number statement) =
      (List.range' number (parameters statement).length).map numbered := by
  induction statement generalizing number with
  | nil => rfl
  | cons fragment rest ih =>
      have hrest (next : Nat) := ih ⟨fun written hwritten =>
        h.texts written (List.mem_cons_of_mem _ hwritten), h.meets.of_cons⟩ next
      show placeholdersOf (fragment.tokens number ++ tokensFrom (fragment.next number) rest) = _
      rw [placeholders_append, hrest]
      cases fragment with
      | text written =>
          obtain ⟨tokens, htokens, hnone⟩ := Option.map_eq_some_iff.mp
            (h.texts written List.mem_cons_self)
          simp only [Fragment.tokens, textTokens, htokens, Option.getD_some, hnone,
            List.nil_append]
          rfl
      | name column => rfl
      | key segment => rfl
      | parameter value =>
          rw [parameters_parameter, List.length_cons, List.range'_succ, List.map_cons]
          simp [placeholdersOf, Token.bare, Fragment.tokens, Fragment.next, numbered]

theorem tokens_of_number (number : Nat) :
    tokens? (Nat.toDigits 10 number) = some [.word (Nat.toDigits 10 number)] :=
  tokens_word Nat.toDigits_ne_nil fun _ hchar => digit_is_word_char hchar

theorem dollar_not_digit (number : Nat) : (Nat.toDigits 10 number).contains '$' = false := by
  rw [Bool.eq_false_iff]
  intro hdollar
  have hdigit := Nat.isDigit_of_mem_toDigits (by decide) (by decide)
    (List.contains_iff_mem.mp hdollar)
  exact absurd hdigit (by decide)

/-- The word for null. -/
def nullWord : List Char := ['N', 'U', 'L', 'L']

/-- Whether the token is quoted, or no placeholder, no null and no equality sign. -/
def Token.isInert : Token → Bool
  | .quoted _ _ => true
  | .word chars => !chars.contains '$' && chars != nullWord
  | .symbol char => char != '$' && char != '='

theorem bare_of_inert {token : Token} (h : token.isInert = true) :
    token.bare.contains '$' = false ∧ token.bare ≠ nullWord := by
  cases token with
  | quoted mark content => exact ⟨rfl, (List.cons_ne_nil _ _).symm⟩
  | word chars => simpa [Token.isInert, Token.bare] using h
  | symbol char =>
      simp only [Token.isInert, Bool.and_eq_true, bne_iff_ne, ne_eq] at h
      have hdollar : '$' ≠ char := Ne.symm h.1
      exact ⟨by simp [Token.bare, hdollar], by simp [Token.bare, nullWord]⟩

/-- The types of the columns have balanced quotes and are inert outside of them, as names in double
quotes between dots are. -/
def TypesInert (types : ColumnTypes) : Prop :=
  ∀ entry ∈ types, ∃ tokens, tokens? entry.2.toList = some tokens ∧
    ∀ token ∈ tokens, token.isInert = true

theorem TypesInert.allows {types : ColumnTypes} (h : TypesInert types) :
    Allows types HasNoPlaceholder := by
  constructor
  · decide +kernel
  · intro entry hentry
    obtain ⟨tokens, htokens, hinert⟩ := h entry hentry
    rw [HasNoPlaceholder, htokens, Option.map_some, placeholdersOf, Option.some.injEq,
      List.filter_eq_nil_iff]
    intro chars hchars
    obtain ⟨token, htoken, rfl⟩ := List.mem_map.mp hchars
    exact Bool.eq_false_iff.mp (bare_of_inert (hinert token htoken)).1
  · intro number
    rw [HasNoPlaceholder, String.toList_ofList, tokens_of_number, Option.map_some]
    simp only [placeholdersOf, List.map_cons, List.map_nil, Token.bare, List.filter_cons,
      dollar_not_digit, List.filter_nil]
    rfl

/-- The placeholders of the text are those of the given bound values, in the same order. -/
structure LinesUp (prepared : Prepared) (values : List BoundValue) : Prop where
  bound : prepared.params = values
  placeholders : (tokens? prepared.sql.toList).map placeholdersOf =
    some ((List.range' 1 values.length).map numbered)

theorem HasNoPlaceholder.readable {written : String} (h : HasNoPlaceholder written) :
    (tokens? written.toList).isSome = true := by
  obtain ⟨tokens, htokens, -⟩ := Option.map_eq_some_iff.mp h
  rw [htokens]
  rfl

theorem lines_up_of_spelled {statement : Statement} (h : Spelled HasNoPlaceholder statement) :
    LinesUp statement.prepared (parameters statement) := by
  refine ⟨rfl, ?_⟩
  rw [prepared_sql, Statement.tokens_sql h fun _ => HasNoPlaceholder.readable, Option.map_some,
    placeholders_tokens_from h]

/-! ## Values of attributes -/

/-- The values written in a text, outside of quotes: placeholders and nulls. -/
def writtenValues (tokens : List Token) : List (List Char) :=
  (tokens.map Token.bare).filter fun chars => chars.contains '$' || chars == nullWord

/-- How the values of attributes are written when the first placeholder has the number. -/
def valuesFrom : Nat → List Json → List (List Char)
  | _, [] => []
  | number, value :: rest =>
    if value.isNull then nullWord :: valuesFrom number rest
    else numbered number :: valuesFrom (number + 1) rest

/-- The name and the value, if the tokens start with an assignment or a comparison of a name. -/
def assigned? : Token → List Token → Option (List Char × List Char)
  | .quoted _ name, .symbol '=' :: .word value :: _ => some (name, value)
  | _, _ => none

/-- The names to which a text assigns values or with which it compares them, with the values. -/
def assignments : List Token → List (List Char × List Char)
  | [] => []
  | token :: rest => (assigned? token rest).toList ++ assignments rest

section Attributes

variable {types : ColumnTypes}

theorem written_values_of_inert {tokens : List Token}
    (h : ∀ token ∈ tokens, token.isInert = true) : writtenValues tokens = [] := by
  refine List.filter_eq_nil_iff.mpr ?_
  intro chars hchars
  obtain ⟨token, htoken, rfl⟩ := List.mem_map.mp hchars
  obtain ⟨hdollar, hnull⟩ := bare_of_inert (h token htoken)
  rw [hdollar, Bool.false_or]
  exact hnull ∘ eq_of_beq

/-- Tokens without an equality sign among them assign nothing, unless one follows. -/
theorem assignments_skip {tokens rest : List Token}
    (h : ∀ token ∈ tokens, token ≠ .symbol '=') (hrest : rest.head? ≠ some (.symbol '=')) :
    assignments (tokens ++ rest) = assignments rest := by
  induction tokens with
  | nil => rfl
  | cons token others ih =>
      have hothers : ∀ other ∈ others, other ≠ .symbol '=' := fun other hother =>
        h other (List.mem_cons_of_mem _ hother)
      have hnone : assigned? token (others ++ rest) = none := by
        have hhead : (others ++ rest).head? ≠ some (.symbol '=') := by
          cases others with
          | nil => exact hrest
          | cons next _ =>
              intro heq
              exact hothers next List.mem_cons_self (Option.some.inj heq)
        unfold assigned?
        split
        · rename_i heq
          rw [heq] at hhead
          exact absurd rfl hhead
        · rfl
      rw [List.cons_append, assignments, hnone, ih hothers]
      rfl

theorem assignments_eq_nil {tokens : List Token} (h : ∀ token ∈ tokens, token ≠ .symbol '=') :
    assignments tokens = [] := by
  have hskip := assignments_skip h (show [].head? ≠ some (Token.symbol '=') from nofun)
  rwa [List.append_nil] at hskip

theorem assignments_assigned (mark : Char) (name value : List Char) (rest : List Token) :
    assignments (.quoted mark name :: .symbol '=' :: .word value :: rest) =
      (name, value) :: assignments rest := rfl

theorem ne_equals_of_inert {token : Token} (h : token.isInert = true) : token ≠ .symbol '=' := by
  rintro rfl
  exact absurd h (by decide)

/-- Names and an inert separator between them. -/
theorem inert_of_names {separator : String} {names : List String} {number : Nat} {token : Token}
    (hseparator : ∀ token ∈ textTokens separator, token.isInert = true)
    (h : token ∈ tokensFrom number
      (Statement.joined separator (names.map fun name => [.name name]))) :
    token.isInert = true := by
  induction names with
  | nil => cases h
  | cons name rest ih =>
      cases rest with
      | nil =>
          cases List.mem_singleton.mp h
          rfl
      | cons next others =>
          simp only [List.map_cons, Statement.joined_cons_cons, Statement.tokens_from_append] at h
          rcases List.mem_append.mp h with hname | hrest
          · cases List.mem_singleton.mp hname
            rfl
          · rcases List.mem_append.mp hrest with hfound | hothers
            · exact hseparator token hfound
            · exact ih hothers

theorem TypesInert.inert (h : TypesInert types) {column type : String}
    (htype : types.lookup column = some type) :
    ∀ token ∈ textTokens type, token.isInert = true := by
  obtain ⟨tokens, htokens, hinert⟩ := h _ (mem_of_lookup htype)
  rwa [textTokens, htokens]

/-- A placeholder for an attribute is its number, and perhaps a cast. -/
theorem tokens_plain_placeholder (h : TypesInert types) (number : Nat) (column : String)
    (value : Json) :
    ∃ cast, tokensFrom number (placeholder types column value .text) =
        .word (numbered number) :: cast ∧ ∀ token ∈ cast, token.isInert = true := by
  unfold placeholder
  rw [if_neg (by decide)]
  split
  · exact ⟨[], rfl, nofun⟩
  · cases htype : types.lookup column with
    | none => exact ⟨[], rfl, nofun⟩
    | some type =>
        refine ⟨.symbol ':' :: .symbol ':' :: (textTokens type ++ []), rfl, ?_⟩
        intro token htoken
        rw [List.append_nil] at htoken
        rcases List.mem_cons.mp htoken with rfl | htoken
        · decide
        · rcases List.mem_cons.mp htoken with rfl | htoken
          · decide
          · exact h.inert htype token htoken

/-- The value of an attribute is its placeholder or the word for null, and perhaps a cast. -/
theorem tokens_attribute_value (h : TypesInert types) (number : Nat) (column : String)
    (value : Json) :
    ∃ cast, tokensFrom number (attributeValue types column value) =
        .word (if value.isNull then nullWord else numbered number) :: cast ∧
      ∀ token ∈ cast, token.isInert = true := by
  unfold attributeValue
  split
  · exact ⟨[], rfl, nofun⟩
  · exact tokens_plain_placeholder h number column value

theorem values_from_cons (number : Nat) (value : Json) (rest : List Json) :
    valuesFrom number (value :: rest) =
      (if value.isNull then nullWord else numbered number) ::
        valuesFrom (number + (boundAttribute? value).toList.length) rest := by
  rw [valuesFrom, boundAttribute?]
  split <;> rfl

@[simp] theorem written_values_append (first second : List Token) :
    writtenValues (first ++ second) = writtenValues first ++ writtenValues second := by
  simp [writtenValues]

theorem written_attribute_value (h : TypesInert types) (number : Nat) (column : String)
    (value : Json) :
    writtenValues (tokensFrom number (attributeValue types column value)) =
      [if value.isNull then nullWord else numbered number] := by
  obtain ⟨cast, htokens, hcast⟩ := tokens_attribute_value h number column value
  rw [htokens, ← List.singleton_append, written_values_append, written_values_of_inert hcast]
  cases value.isNull <;> simp [writtenValues, Token.bare, numbered]

/-- The values of attributes are written one after the other. -/
theorem written_attributes (h : TypesInert types) (number : Nat) (attributes : JsonFields) :
    writtenValues (tokensFrom number (Statement.joined ", " (attributes.map fun field =>
      attributeValue types field.1 field.2))) = valuesFrom number (attributes.map (·.2)) := by
  have hcomma : writtenValues (textTokens ", ") = [] := by decide +kernel
  induction attributes generalizing number with
  | nil => rfl
  | cons field rest ih =>
      have hfield := written_attribute_value h number field.1 field.2
      rw [List.map_cons, List.map_cons, values_from_cons]
      cases rest with
      | nil =>
          rw [List.map_nil, Statement.joined_single, hfield]
          rfl
      | cons next others =>
          have hrest := ih (number + (boundAttribute? field.2).toList.length)
          rw [List.map_cons] at hrest ⊢
          rw [Statement.joined_cons_cons, Statement.tokens_from_append,
            Statement.tokens_from_text, written_values_append, hfield, written_values_append,
            hcomma, parameters_attribute_value, List.nil_append, hrest]
          rfl

/-- An insertion writes the values of its attributes, null as such. -/
theorem written_insert (h : TypesInert types) (table : String) (attributes : JsonFields) :
    writtenValues (tokensFrom 1 (insert types table attributes)) =
      valuesFrom 1 (attributes.map (·.2)) := by
  have htable (number : Nat) : writtenValues (tokensFrom number (qualifiedTable table)) = [] :=
    written_values_of_inert fun _ htoken => inert_of_names (by decide +kernel) htoken
  have hstart : writtenValues (textTokens "INSERT INTO ") = [] := by
    decide +kernel
  unfold insert
  split
  · rename_i hempty
    have hend : writtenValues (textTokens " DEFAULT VALUES RETURNING *") = [] := by
      decide +kernel
    rw [List.isEmpty_iff.mp hempty]
    simp [hstart, htable, hend, valuesFrom]
  · have hopen : writtenValues (textTokens " (") = [] := by decide +kernel
    have hvalues : writtenValues (textTokens ") VALUES (") = [] := by
      decide +kernel
    have hend : writtenValues (textTokens ") RETURNING *") = [] := by
      decide +kernel
    have hnames : writtenValues (tokensFrom 1
        (Statement.joined ", " (attributes.map fun field => [.name field.1]))) = [] := by
      refine written_values_of_inert fun _ htoken => ?_
      rw [← Function.comp_def (fun name => [Fragment.name name]) Prod.fst, ← List.map_map]
        at htoken
      exact inert_of_names (by decide +kernel) htoken
    have hnumber : parameters (Statement.joined ", "
        (attributes.map fun field => [.name field.1])) = [] := by
      rw [parameters_filled, filled_joined, List.flatMap_map]
      exact parameters_flat_map_eq_nil (fun _ => rfl) attributes
    simp [hstart, htable, hopen, hvalues, hend, hnames, hnumber, written_attributes h]

theorem significant_ne_equals {tokens : List Token}
    (h : ∀ token ∈ tokens, token.isInert = true) :
    ∀ token ∈ significant tokens, token ≠ .symbol '=' :=
  fun token htoken => ne_equals_of_inert (h token (List.mem_filter.mp htoken).1)

theorem significant_equals : significant (textTokens " = ") = [.symbol '='] := by
  decide +kernel

theorem significant_where :
    significant (textTokens " WHERE ") = [.word ['W', 'H', 'E', 'R', 'E']] := by
  decide +kernel

/-- A name, an equality sign and a value are one assignment, whatever stands behind them. -/
theorem assignments_compared {number : Nat} {value : Statement} {word : List Char}
    {cast rest : List Token} (name : String)
    (hvalue : tokensFrom number value = .word word :: cast)
    (hcast : ∀ token ∈ cast, token.isInert = true) (hrest : rest.head? ≠ some (.symbol '=')) :
    assignments (significant (tokensFrom number (.name name :: .text " = " :: value)) ++ rest) =
      (name.toList, word) :: assignments rest := by
  rw [Statement.tokens_from_name, Statement.tokens_from_text, hvalue, significant_quoted,
    significant_append, significant_equals, significant_word]
  show assignments (.quoted '"' name.toList :: .symbol '=' :: .word word ::
    (significant cast ++ rest)) = _
  rw [assignments_assigned, assignments_skip (significant_ne_equals hcast) hrest]

/-- The assignments of an update: its changes in order, with the values as they are written. -/
def assignedFrom (number : Nat) (changes : JsonFields) : List (List Char × List Char) :=
  (changes.map (·.1.toList)).zip (valuesFrom number (changes.map (·.2)))

theorem assignments_settings (h : TypesInert types) (number : Nat) (changes : JsonFields)
    {rest : List Token} (hrest : rest.head? ≠ some (.symbol '=')) :
    assignments (significant (tokensFrom number (settings types changes)) ++ rest) =
      assignedFrom number changes ++ assignments rest := by
  have hcomma : significant (textTokens ", ") = [.symbol ','] := by decide +kernel
  unfold settings
  induction changes generalizing number with
  | nil => rfl
  | cons field others ih =>
      obtain ⟨cast, hvalue, hcast⟩ := tokens_attribute_value h number field.1 field.2
      rw [assignedFrom, List.map_cons, List.map_cons, List.map_cons, values_from_cons]
      cases others with
      | nil =>
          rw [List.map_nil, Statement.joined_single,
            assignments_compared field.1 hvalue hcast hrest]
          rfl
      | cons next others =>
          -- The number of the next assignment depends on whether this one is null.
          have hothers := ih (number + (boundAttribute? field.2).toList.length)
          rw [List.map_cons] at hothers ⊢
          rw [Statement.joined_cons_cons, Statement.tokens_from_append,
            Statement.tokens_from_text, significant_append, significant_append, hcomma,
            List.append_assoc, assignments_compared field.1 hvalue hcast (by simp),
            List.append_assoc, parameters_name, parameters_text, parameters_attribute_value]
          show _ :: assignments (_ ++ rest) = _
          rw [hothers]
          rfl

theorem head_of_key_condition (number : Nat) (primaryKey : String) (key : Json)
    (rest : Statement) :
    (significant (tokensFrom number (keyCondition types primaryKey key ++ rest))).head? ≠
      some (.symbol '=') := by
  rw [keyCondition, List.cons_append, Statement.tokens_from_text, significant_append,
    significant_where]
  simp

theorem assignments_key_condition (h : TypesInert types) (number : Nat) (primaryKey : String)
    (key : Json) {rest : Statement}
    (hrest : ∀ token ∈ significant (tokensFrom (number + 1) rest), token ≠ .symbol '=') :
    assignments (significant (tokensFrom number (keyCondition types primaryKey key ++ rest))) =
      [(primaryKey.toList, numbered number)] := by
  obtain ⟨cast, hvalue, hcast⟩ := tokens_plain_placeholder h number primaryKey key
  have hhead : (significant (tokensFrom (number + 1) rest)).head? ≠ some (.symbol '=') := by
    intro heq
    exact hrest _ (List.mem_of_mem_head? heq) rfl
  rw [Statement.tokens_from_append, significant_append, parameters_key_condition, keyCondition,
    Statement.tokens_from_text, significant_append, significant_where]
  show assignments (significant (tokensFrom number (.name primaryKey :: .text " = " ::
    placeholder types primaryKey key .text)) ++ significant (tokensFrom (number + 1) rest)) = _
  rw [assignments_compared primaryKey hvalue hcast hhead, assignments_eq_nil hrest]

/-- Neither the first word of a statement nor its table assigns anything. -/
theorem assignments_behind_table {start : String} (table : String) {rest : Statement}
    (hstart : ∀ token ∈ significant (textTokens start), token ≠ .symbol '=')
    (hrest : (significant (tokensFrom 1 rest)).head? ≠ some (.symbol '=')) :
    assignments (significant (tokensFrom 1 ((.text start :: qualifiedTable table) ++ rest))) =
      assignments (significant (tokensFrom 1 rest)) := by
  have hnames : ∀ token ∈ significant (tokensFrom 1 (.text start :: qualifiedTable table)),
      token ≠ .symbol '=' := by
    intro token htoken
    rw [Statement.tokens_from_text, significant_append] at htoken
    rcases List.mem_append.mp htoken with hfound | hfound
    · exact hstart token hfound
    · refine significant_ne_equals (fun other hother => ?_) token hfound
      exact inert_of_names (by decide +kernel) hother
  have hnumber : 1 + (parameters (.text start :: qualifiedTable table)).length = 1 := by
    rw [parameters_text, parameters_qualified_table]
    rfl
  rw [Statement.tokens_from_append, significant_append, hnumber]
  exact assignments_skip hnames hrest

/-- An update assigns its changes, null as such and never the key, and compares the key with the
last placeholder. -/
theorem assignments_update (h : TypesInert types) (table primaryKey : String) (key : Json)
    (attributes : JsonFields) :
    assignments (significant (tokensFrom 1 (update types table primaryKey key attributes))) =
      assignedFrom 1 (changesOf primaryKey attributes) ++
        [(primaryKey.toList,
          numbered (1 + (boundAttributes (changesOf primaryKey attributes)).length))] := by
  rw [update_eq]
  split
  · -- Without changes the statement only reads the row.
    rename_i hempty
    have hhead : (significant (tokensFrom 1 (keyCondition types primaryKey key ++ []))).head? ≠
        some (.symbol '=') := head_of_key_condition 1 primaryKey key []
    have hcondition := assignments_key_condition h 1 primaryKey key
      (show ∀ token ∈ significant (tokensFrom 2 []), token ≠ Token.symbol '=' from nofun)
    rw [List.append_nil] at hhead hcondition
    rw [assignments_behind_table table (by decide +kernel) hhead, hcondition,
      List.isEmpty_iff.mp hempty]
    rfl
  · have hset : significant (textTokens " SET ") = [.word ['S', 'E', 'T']] := by decide +kernel
    have hreturning : ∀ token ∈ significant (textTokens " RETURNING *"), token ≠ .symbol '=' := by
      decide +kernel
    have hbehind (rest : Statement) : significant (tokensFrom 1 (.text " SET " :: rest)) =
        .word ['S', 'E', 'T'] :: significant (tokensFrom 1 rest) := by
      rw [Statement.tokens_from_text, significant_append, hset]
      rfl
    rw [assignments_behind_table table (by decide +kernel) (by rw [hbehind]; simp), hbehind]
    show assignments (significant (tokensFrom 1 _)) = _
    rw [Statement.tokens_from_append, significant_append, parameters_settings,
      assignments_settings h 1 _ (head_of_key_condition _ _ _ _),
      assignments_key_condition h _ primaryKey key (by simpa using hreturning)]

end Attributes

/-! ## Statements -/

/-- The bound values are those that a walk of the conditions or of the attributes and the key
meets, the placeholders outside of quotes are `$1`, `$2` and so on for as many of them, and null
attributes are written and not bound. An update assigns every attribute but the key. -/
theorem placeholders_line_up {types : ColumnTypes} (h : TypesInert types) (table : String) :
    (∀ query : SelectQuery,
      LinesUp (Prepared.select types table query) (Predicate.boundValuesOf query.predicates) ∧
      LinesUp (Prepared.count types table query) (Predicate.boundValuesOf query.predicates)) ∧
    (∀ attributes, LinesUp (Prepared.insert types table attributes) (boundAttributes attributes) ∧
      (tokens? (Prepared.insert types table attributes).sql.toList).map writtenValues =
        some (valuesFrom 1 (attributes.map (·.2)))) ∧
    (∀ primaryKey key attributes,
      let changes := changesOf primaryKey attributes
      LinesUp (Prepared.update types table primaryKey key attributes)
        (boundAttributes changes ++ [.ofKind .text key]) ∧
      (tokens? (Prepared.update types table primaryKey key attributes).sql.toList).map
          (assignments ∘ significant) =
        some (assignedFrom 1 changes ++
          [(primaryKey.toList, numbered (1 + (boundAttributes changes).length))]) ∧
      ∀ change ∈ assignedFrom 1 changes, change.1 ≠ primaryKey.toList) ∧
    ∀ primaryKey key,
      LinesUp (Prepared.delete types table primaryKey key) [.ofKind .text key] := by
  have hallows := h.allows
  have hreadable (written : String) (h : HasNoPlaceholder written) := h.readable
  simp only [select_eq_prepared, count_eq_prepared, insert_eq_prepared, update_eq_prepared,
    delete_eq_prepared]
  refine ⟨?_, ?_, ?_, ?_⟩
  · intro query
    have hselect := lines_up_of_spelled (hallows.select_spelled table query)
    have hcount := lines_up_of_spelled (hallows.count_spelled table query)
    rw [parameters_select] at hselect
    rw [parameters_count] at hcount
    exact ⟨hselect, hcount⟩
  · intro attributes
    have hspelled := hallows.insert_spelled table attributes
    have hlines := lines_up_of_spelled hspelled
    rw [parameters_insert] at hlines
    refine ⟨hlines, ?_⟩
    rw [prepared_sql, Statement.tokens_sql hspelled hreadable, Option.map_some, written_insert h]
  · intro primaryKey key attributes
    have hspelled := hallows.update_spelled table primaryKey key attributes
    have hlines := lines_up_of_spelled hspelled
    rw [parameters_update] at hlines
    refine ⟨hlines, ?_, ?_⟩
    · rw [prepared_sql, Statement.tokens_sql hspelled hreadable, Option.map_some,
        Function.comp_apply, assignments_update h]
    · intro change hchange hkey
      obtain ⟨field, hfield, hname⟩ := List.mem_map.mp (List.of_mem_zip hchange).1
      have hother := (List.mem_filter.mp hfield).2
      rw [← hname] at hkey
      exact bne_iff_ne.mp hother (String.toList_inj.mp hkey)
  · intro primaryKey key
    have hdelete := lines_up_of_spelled (hallows.delete_spelled table primaryKey key)
    rwa [parameters_delete] at hdelete

/-- A nested search with an empty list and an update of three attributes, one of them null and one
the key, where one column has a type. -/
theorem placeholders_line_up_of_search :
    let types : ColumnTypes := [("state", "\"public\".\"state$\"")]
    let query : SelectQuery :=
      { predicates := [.any [.oneOf "id" [] .text, .all [.like "we\"$9" "%$%", .any []]],
          .between "meta.rank" (.number (.int 5)) (.string "$1") .integer] }
    let note : JsonFields := [("id", .string "n1"), ("done", .null), ("state", .string "new")]
    TypesInert types ∧
    LinesUp (Prepared.select types "blog.posts" query) [.text "%$%", .integer 5, .text "$1"] ∧
    LinesUp (Prepared.update types "notes" "id" (.string "n1") note) [.text "new", .text "n1"] ∧
    (tokens? (Prepared.update types "notes" "id" (.string "n1") note).sql.toList).map
        (assignments ∘ significant) =
      some [("done".toList, nullWord), ("state".toList, numbered 1),
        ("id".toList, numbered 2)] := by
  intro types query note
  have htypes : TypesInert types := by
    intro entry hentry
    cases List.mem_singleton.mp hentry
    exact ⟨[.quoted '"' "public".toList, .symbol '.', .quoted '"' "state$".toList],
      by decide +kernel, by decide +kernel⟩
  obtain ⟨hqueries, -, -, -⟩ := placeholders_line_up htypes "blog.posts"
  obtain ⟨-, -, hupdates, -⟩ := placeholders_line_up htypes "notes"
  obtain ⟨hlines, hassigned, -⟩ := hupdates "id" (.string "n1") note
  exact ⟨htypes, (hqueries query).1, hlines, hassigned⟩

end Sql

end EntityGate
