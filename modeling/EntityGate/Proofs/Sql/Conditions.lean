import EntityGate.Proofs.Sql.Placeholders
import EntityGate.Proofs.Sql.Reading
import EntityGate.Proofs.Store.Tests

/-!
# Conditions of a clause

The clause of a query combines its comparisons as the conditions of the query do: read by the rules
of SQL, it gives the tree of the predicates back, so a store that runs the text and one that walks
the predicates agree under every assignment of truth values to the comparisons. See
`clause_keeps_structure`.
-/

namespace EntityGate

/-! ## Combining comparisons -/

namespace Predicate

mutual

/-- The truth value of a predicate when its comparisons have the given ones. -/
def combine (truth : Predicate → Bool) : Predicate → Bool
  | .oneOf _ [] _ => false
  | .any alternatives => combineSome truth alternatives
  | .all conditions => combineAll truth conditions
  | comparison => truth comparison

/-- Whether one of the predicates is true. -/
def combineSome (truth : Predicate → Bool) : List Predicate → Bool
  | [] => false
  | predicate :: rest => combine truth predicate || combineSome truth rest

/-- Whether all predicates are true. -/
def combineAll (truth : Predicate → Bool) : List Predicate → Bool
  | [] => true
  | predicate :: rest => combine truth predicate && combineAll truth rest

end

mutual

/-- The comparisons of a predicate from left to right, each with the number of the placeholder that
comes first at or behind it. -/
def comparisons (number : Nat) : Predicate → List (Nat × Predicate)
  | .oneOf _ [] _ => []
  | .any alternatives => comparisonsOf number alternatives
  | .all conditions => comparisonsOf number conditions
  | comparison => [(number, comparison)]

/-- The comparisons of predicates, one after the other. -/
def comparisonsOf (number : Nat) : List Predicate → List (Nat × Predicate)
  | [] => []
  | predicate :: rest =>
    comparisons number predicate ++
      comparisonsOf (number + predicate.boundValues.length) rest

end

mutual

/-- A row that decides the comparisons decides the predicate. -/
theorem combine_holds (row : Row) (predicate : Predicate) :
    predicate.combine (holds row) = predicate.holds row := by
  match predicate with
  | .compare .. | .isNull .. | .between .. | .like .. => rfl
  | .oneOf field [] kind =>
      rw [combine, holds]
      cases row.lookup field <;> rfl
  | .oneOf field (value :: rest) kind => rfl
  | .any alternatives => rw [combine, holds, combine_some_holds row alternatives]
  | .all conditions => rw [combine, holds, combine_all_holds row conditions]
termination_by structural predicate

theorem combine_some_holds (row : Row) (predicates : List Predicate) :
    combineSome (holds row) predicates = holdsSome row predicates := by
  match predicates with
  | [] => rfl
  | predicate :: rest =>
      rw [combineSome, holdsSome, combine_holds row predicate, combine_some_holds row rest]
termination_by structural predicates

theorem combine_all_holds (row : Row) (predicates : List Predicate) :
    combineAll (holds row) predicates = holdsAll row predicates := by
  match predicates with
  | [] => rfl
  | predicate :: rest =>
      rw [combineAll, holdsAll, combine_holds row predicate, combine_all_holds row rest]
termination_by structural predicates

end

end Predicate

namespace Sql

open Identifier (isDotted)
open Statement (parameters tokensFrom charsFrom Spelled)

/-! ## The tree of a clause -/

mutual

/-- The condition that a predicate is read as. -/
def conditionFrom (number : Nat) : Predicate → Condition (Nat × Predicate)
  | .oneOf _ [] _ => .constant false
  | .any [] => .constant false
  | .any (first :: rest) =>
    .someOf ((conditionsFrom number (first :: rest)).map fun found => .allOf [found])
  | .all [] => .constant true
  | .all (first :: rest) => .someOf [.allOf (conditionsFrom number (first :: rest))]
  | comparison => .atom (number, comparison)

/-- The conditions that predicates are read as, one by one. -/
def conditionsFrom (number : Nat) : List Predicate → List (Condition (Nat × Predicate))
  | [] => []
  | predicate :: rest =>
    conditionFrom number predicate ::
      conditionsFrom (number + predicate.boundValues.length) rest

end

mutual

theorem eval_condition_from (truth : Predicate → Bool) (number : Nat) (predicate : Predicate) :
    (conditionFrom number predicate).eval (truth ∘ Prod.snd) = predicate.combine truth := by
  match predicate with
  | .compare .. | .isNull .. | .between .. | .like .. => rfl
  | .oneOf _ [] _ | .oneOf _ (_ :: _) _ => rfl
  | .any [] | .all [] => rfl
  | .any (first :: rest) =>
      have hparts := (eval_conditions_from truth number (first :: rest)).2
      simpa [conditionFrom, Predicate.combine, Function.comp_def, Condition.eval] using hparts
  | .all (first :: rest) =>
      have hparts := (eval_conditions_from truth number (first :: rest)).1
      simpa [conditionFrom, Predicate.combine, Function.comp_def, Condition.eval] using hparts
termination_by structural predicate

theorem eval_conditions_from (truth : Predicate → Bool) (number : Nat)
    (predicates : List Predicate) :
    (conditionsFrom number predicates).all (Condition.eval (truth ∘ Prod.snd)) =
        Predicate.combineAll truth predicates ∧
      (conditionsFrom number predicates).any (Condition.eval (truth ∘ Prod.snd)) =
        Predicate.combineSome truth predicates := by
  match predicates with
  | [] => exact ⟨rfl, rfl⟩
  | predicate :: rest =>
      have hfirst := eval_condition_from truth number predicate
      have hrest := eval_conditions_from truth (number + predicate.boundValues.length) rest
      rw [conditionsFrom, List.all_cons, List.any_cons, hfirst, hrest.1, hrest.2]
      exact ⟨rfl, rfl⟩
termination_by structural predicates

end

mutual

theorem atoms_condition_from (number : Nat) (predicate : Predicate) :
    (conditionFrom number predicate).atoms = predicate.comparisons number := by
  match predicate with
  | .compare .. | .isNull .. | .between .. | .like .. => rfl
  | .oneOf _ [] _ | .oneOf _ (_ :: _) _ => rfl
  | .any [] | .all [] => rfl
  | .any (first :: rest) =>
      have hparts := atoms_conditions_from number (first :: rest)
      simpa [conditionFrom, Predicate.comparisons, List.flatMap_map, Condition.atoms] using hparts
  | .all (first :: rest) =>
      have hparts := atoms_conditions_from number (first :: rest)
      simpa [conditionFrom, Predicate.comparisons, Condition.atoms] using hparts
termination_by structural predicate

theorem atoms_conditions_from (number : Nat) (predicates : List Predicate) :
    (conditionsFrom number predicates).flatMap Condition.atoms =
      Predicate.comparisonsOf number predicates := by
  match predicates with
  | [] => rfl
  | predicate :: rest =>
      have hfirst := atoms_condition_from number predicate
      have hrest := atoms_conditions_from (number + predicate.boundValues.length) rest
      rw [conditionsFrom, List.flatMap_cons, hfirst, hrest, Predicate.comparisonsOf]
termination_by structural predicates

end

/-! ## Quiet statements -/

/-- The tokens are read as items of which none joins conditions. -/
def Quiet (tokens : List Token) : Prop :=
  ∃ items, Reads tokens items ∧ ∀ item ∈ items, item.isQuiet = true

/-- Whether the token by itself is quiet and no parenthesis. -/
def Token.isQuiet (token : Token) : Bool :=
  (Item.token token).isQuiet && token != .symbol '(' && token != .symbol ')'

theorem Quiet.append {first second : List Token} (hfirst : Quiet first) (hsecond : Quiet second) :
    Quiet (first ++ second) := by
  obtain ⟨items, hreads, hquiet⟩ := hfirst
  obtain ⟨others, hothers, hquietOthers⟩ := hsecond
  exact ⟨items ++ others, hreads.append hothers,
    List.forall_mem_append.mpr ⟨hquiet, hquietOthers⟩⟩

theorem Quiet.of_tokens {tokens : List Token} (h : ∀ token ∈ tokens, token.isQuiet = true) :
    Quiet tokens := by
  induction tokens with
  | nil => exact ⟨[], .nil, nofun⟩
  | cons token rest ih =>
      have htoken := h token List.mem_cons_self
      simp only [Token.isQuiet, Bool.and_eq_true, bne_iff_ne, ne_eq] at htoken
      obtain ⟨⟨hquiet, hopening⟩, hclosing⟩ := htoken
      have hone : Quiet [token] :=
        ⟨_, .token hopening hclosing, List.forall_mem_singleton.mpr hquiet⟩
      exact hone.append (ih fun other hother => h other (List.mem_cons_of_mem _ hother))

theorem Quiet.group {tokens : List Token} (h : Quiet tokens) :
    Quiet (.symbol '(' :: (tokens ++ [.symbol ')'])) := by
  obtain ⟨items, hreads, -⟩ := h
  exact ⟨_, hreads.group, List.forall_mem_singleton.mpr rfl⟩

/-- The types of the columns are written as types are: with balanced quotes and parentheses, and
without a word outside of parentheses that joins conditions. Names in quotes are such types, and so
are names with numbers in parentheses. -/
def TypesQuiet (types : ColumnTypes) : Prop :=
  ∀ entry ∈ types, ∃ tokens, tokens? entry.2.toList = some tokens ∧ Quiet (significant tokens)

theorem TypesQuiet.allows {types : ColumnTypes} (h : TypesQuiet types) :
    Allows types fun written => (tokens? written.toList).isSome = true := by
  refine ⟨by decide +kernel, ?_, ?_⟩
  · intro entry hentry
    obtain ⟨tokens, htokens, -⟩ := h entry hentry
    rw [htokens]
    rfl
  · intro number
    rw [String.toList_ofList, tokens_of_number]
    rfl

/-- What the statement is written as does not join conditions, wherever its placeholders start. -/
def IsQuiet (statement : Statement) : Prop :=
  ∀ number, Quiet (significant (tokensFrom number statement))

namespace IsQuiet

variable {first second statement : Statement}

theorem nil : IsQuiet [] := fun _ => ⟨[], .nil, nofun⟩

theorem append (hfirst : IsQuiet first) (hsecond : IsQuiet second) : IsQuiet (first ++ second) := by
  intro number
  rw [Statement.tokens_from_append, significant_append]
  exact (hfirst number).append (hsecond _)

theorem text {written : String}
    (h : ∀ token ∈ significant (textTokens written), token.isQuiet = true) :
    IsQuiet [.text written] := by
  intro number
  rw [Statement.tokens_from_text, Statement.tokens_from_nil, List.append_nil]
  exact .of_tokens h

theorem name (column : String) : IsQuiet [.name column] :=
  fun _ => .of_tokens (by simp [significant, Token.isQuiet, Item.isQuiet, Item.isWord])

theorem key (segment : String) : IsQuiet [.key segment] :=
  fun _ => .of_tokens (by
    simp [tokensFrom, Fragment.tokens, significant, Token.isQuiet, Item.isQuiet, Item.isWord])

theorem parameter (value : BoundValue) : IsQuiet [.parameter value] :=
  fun _ => .of_tokens (by
    simp [tokensFrom, Fragment.tokens, significant, Token.isQuiet, Item.isQuiet, Item.isWord,
      andWord, orWord, betweenWord])

theorem joined {separator : String}
    (h : ∀ token ∈ significant (textTokens separator), token.isQuiet = true)
    {parts : List Statement} (hparts : ∀ part ∈ parts, IsQuiet part) :
    IsQuiet (Statement.joined separator parts) := by
  induction parts with
  | nil => exact .nil
  | cons part rest ih =>
      have hpart := hparts part List.mem_cons_self
      cases rest with
      | nil => rwa [Statement.joined_single]
      | cons next others =>
          exact hpart.append ((text h).append
            (ih fun other hother => hparts other (List.mem_cons_of_mem _ hother)))

/-- A statement between the parentheses of two texts. -/
theorem grouped (opening closing : String) (before after : List Token)
    (hopening : significant (textTokens opening) = before ++ [.symbol '('])
    (hclosing : significant (textTokens closing) = .symbol ')' :: after)
    (hbefore : ∀ token ∈ before, token.isQuiet = true)
    (hafter : ∀ token ∈ after, token.isQuiet = true) (h : IsQuiet statement) :
    IsQuiet (.text opening :: (statement ++ [.text closing])) := by
  intro number
  have htokens := ((Quiet.of_tokens hbefore).append (h number).group).append (.of_tokens hafter)
  rw [Statement.tokens_from_text, Statement.tokens_from_append, significant_append, hopening,
    significant_append, Statement.tokens_from_text, Statement.tokens_from_nil, List.append_nil,
    hclosing]
  simpa using htokens

end IsQuiet

section Rendered

variable {types : ColumnTypes}

theorem path_keys_quiet (keys : List String) : IsQuiet (pathKeys keys) := by
  induction keys with
  | nil => exact .nil
  | cons key rest ih => exact ((IsQuiet.text (by decide +kernel)).append (.key key)).append ih

theorem text_path_keys_quiet (keys : List String) : IsQuiet (textPathKeys keys) := by
  fun_induction textPathKeys keys with
  | case1 => exact .nil
  | case2 key => exact (IsQuiet.text (by decide +kernel)).append (.key key)
  | case3 key rest _ ih => exact ((IsQuiet.text (by decide +kernel)).append (.key key)).append ih

theorem cast_quiet {kind : ValueKind} {cast : String} (h : kind.cast? = some cast) :
    IsQuiet [.text cast] := by
  cases kind <;> cases h <;> exact .text (by decide +kernel)

theorem column_expression_quiet (field : String) (kind : ValueKind) :
    IsQuiet (columnExpression field kind) := by
  have hcolumn := IsQuiet.name (splitField field).1
  have htext := hcolumn.append (text_path_keys_quiet (splitField field).2)
  unfold columnExpression
  dsimp only
  split
  · have hpath := hcolumn.append (path_keys_quiet (splitField field).2)
    exact hpath.grouped "to_jsonb(" ")" [.word "to_jsonb".toList] [] (by decide +kernel)
      (by decide +kernel) (by decide +kernel) nofun
  · split
    · exact hcolumn
    · cases hcast : kind.cast? with
      | none => exact htext
      | some cast =>
          have hgroup := htext.grouped "(" ")::" [] [.symbol ':', .symbol ':']
            (by decide +kernel) (by decide +kernel) nofun (by decide +kernel)
          have hwhole := hgroup.append (cast_quiet hcast)
          simpa using hwhole

theorem placeholder_quiet (h : TypesQuiet types) (field : String) (value : Json)
    (kind : ValueKind) : IsQuiet (placeholder types field value kind) := by
  have hbound : IsQuiet [.parameter (.ofKind kind value)] := .parameter _
  have hcolons : IsQuiet [.text "::"] := .text (by decide +kernel)
  unfold placeholder
  split
  · exact hbound.append (.text (by decide +kernel))
  · split
    · cases hcast : kind.cast? with
      | none => exact hbound
      | some cast => exact (hbound.append hcolons).append (cast_quiet hcast)
    · cases htype : types.lookup field with
      | none => exact hbound
      | some type =>
          obtain ⟨tokens, htokens, hquiet⟩ := h _ (mem_of_lookup htype)
          have hwritten : IsQuiet [.text type] := by
            intro number
            rw [Statement.tokens_from_text, Statement.tokens_from_nil, List.append_nil,
              textTokens, htokens]
            exact hquiet
          exact (hbound.append hcolons).append hwritten

theorem significant_opening : significant (textTokens "(") = [.symbol '('] := by decide +kernel

theorem significant_and : significant (textTokens " AND ") = [.word andWord] := by decide +kernel

theorem significant_or : significant (textTokens " OR ") = [.word orWord] := by decide +kernel

/-- The first token of a column expression is a name, a parenthesis or the name of a function. -/
theorem head_of_column_expression (number : Nat) (field : String) (kind : ValueKind) :
    ∃ first rest, significant (tokensFrom number (columnExpression field kind)) = first :: rest ∧
      first ≠ .word ['1'] := by
  have hjson : significant (textTokens "to_jsonb(") = [.word "to_jsonb".toList, .symbol '('] := by
    decide +kernel
  have hname (column : String) (rest : Statement) :
      significant (tokensFrom number (.name column :: rest)) =
        .quoted '"' column.toList :: significant (tokensFrom number rest) := rfl
  unfold columnExpression
  dsimp only
  split
  · rw [Statement.tokens_from_text, significant_append, hjson]
    exact ⟨_, _, rfl, by decide⟩
  · split
    · exact ⟨_, _, hname _ _, nofun⟩
    · cases kind.cast? with
      | none => exact ⟨_, _, hname _ _, nofun⟩
      | some cast =>
          rw [Statement.tokens_from_text, significant_append, significant_opening]
          exact ⟨_, _, rfl, nofun⟩

end Rendered

/-! ## Reading a clause back -/

/-- Between connectives the tokens are read as the condition. -/
def ReadsAs (tokens : List Token) (condition : Condition (List Token)) : Prop :=
  ∃ items, Reads tokens items ∧ Whole items ∧ operand items = condition

theorem ReadsAs.group {tokens : List Token} {items : List Item} (h : Reads tokens items) :
    ReadsAs (.symbol '(' :: (tokens ++ [.symbol ')'])) (readLevel items) :=
  ⟨_, h.group, .group _ _, rfl⟩

/-- A test of a column: it is not empty, and one part with quiet items in front of it. -/
def IsTest (test : Statement) : Prop :=
  ∀ number, ∃ items, Reads (significant (tokensFrom number test)) items ∧ items ≠ [] ∧
    ∀ first : List Item, (∀ item ∈ first, item.isQuiet = true) → Whole (first ++ items)

theorem IsQuiet.test {test : Statement} (h : IsQuiet test)
    (hne : ∀ number, significant (tokensFrom number test) ≠ []) : IsTest test := by
  intro number
  obtain ⟨items, hreads, hquiet⟩ := h number
  refine ⟨items, hreads, hreads.ne_nil (hne number), ?_⟩
  intro first hfirst
  exact .of_quiet (List.forall_mem_append.mpr ⟨hfirst, hquiet⟩)

/-- A column with a test is an atom. -/
theorem test_reads {test : Statement} (h : IsTest test) (number : Nat) (field : String)
    (kind : ValueKind) :
    ReadsAs (significant (tokensFrom number (columnExpression field kind ++ test)))
      (.atom (significant (tokensFrom number (columnExpression field kind ++ test)))) := by
  obtain ⟨first, hcolumn, hquiet⟩ := column_expression_quiet field kind number
  obtain ⟨token, rest, hhead, hone⟩ := head_of_column_expression number field kind
  rw [Statement.tokens_from_append, parameters_column_expression, significant_append]
  obtain ⟨second, htest, hne, hwhole⟩ := h (number + [].length)
  have hreads := hcolumn.append htest
  refine ⟨first ++ second, hreads, hwhole first hquiet, ?_⟩
  have hfirst : first ≠ [] := by
    refine hcolumn.ne_nil ?_
    rw [hhead]
    exact List.cons_ne_nil _ _
  unfold operand
  split
  · -- A single group cannot be both a column and its test.
    rename_i heq
    rcases List.append_eq_singleton_iff.mp heq with ⟨hnil, -⟩ | ⟨-, hnil⟩
    · exact absurd hnil hfirst
    · exact absurd hnil hne
  · -- A constant would start with the digit one, and no column does.
    dsimp only
    rw [hreads.whole, hhead]
    simp [hone]

section Clause

variable {types : ColumnTypes}

theorem in_list_test (h : TypesQuiet types) (field : String) (values : List Json)
    (kind : ValueKind) :
    IsTest (.text " IN (" :: (Statement.joined ", " (values.map fun value =>
      placeholder types field value kind) ++ [.text ")"])) := by
  have hopening : significant (textTokens " IN (") = [.word ['I', 'N'], .symbol '('] := by
    decide +kernel
  have hvalues : IsQuiet (Statement.joined ", " (values.map fun value =>
      placeholder types field value kind)) := by
    refine .joined (by decide +kernel) ?_
    intro part hpart
    obtain ⟨value, -, rfl⟩ := List.mem_map.mp hpart
    exact placeholder_quiet h field value kind
  refine (hvalues.grouped " IN (" ")" [.word ['I', 'N']] [] hopening (by decide +kernel)
    (by decide +kernel) nofun).test ?_
  intro number
  rw [Statement.tokens_from_text, significant_append, hopening]
  exact List.cons_ne_nil _ _

theorem between_test (h : TypesQuiet types) (field : String) (low high : Json)
    (kind : ValueKind) :
    IsTest (.text " BETWEEN " :: (placeholder types field low kind ++
      .text " AND " :: placeholder types field high kind)) := by
  have hbetween : significant (textTokens " BETWEEN ") = [.word betweenWord] := by decide +kernel
  intro number
  obtain ⟨lowItems, hlow, hlowQuiet⟩ := placeholder_quiet h field low kind number
  obtain ⟨highItems, hhigh, hhighQuiet⟩ := placeholder_quiet h field high kind (number + 1)
  refine ⟨.token (.word betweenWord) :: (lowItems ++ .token (.word andWord) :: highItems), ?_,
    List.cons_ne_nil _ _, fun first hfirst => .between hfirst hlowQuiet hhighQuiet⟩
  rw [Statement.tokens_from_text, significant_append, hbetween, Statement.tokens_from_append,
    significant_append, parameters_placeholder, Statement.tokens_from_text, significant_append,
    significant_and]
  exact (Reads.word betweenWord).append (hlow.append ((Reads.word andWord).append hhigh))

/-- The tokens of a comparison that is rendered where its first placeholder gets the number: with
as many values bound as there are numbers before it. -/
def writtenAs (types : ColumnTypes) (comparison : Nat × Predicate) : List Token :=
  let bound := List.replicate (comparison.1 - 1) BoundValue.null
  significant (textTokens ((Prepared.renderPredicate types comparison.2).run bound).1)

theorem written_as_eq (h : TypesQuiet types) {number : Nat} (hnumber : 0 < number)
    (comparison : Predicate) :
    writtenAs types (number, comparison) =
      significant (tokensFrom number (renderPredicate types comparison)) := by
  have hprints := prints_predicate types comparison (List.replicate (number - 1) .null)
  have hplace : (List.replicate (number - 1) BoundValue.null).length + 1 = number := by
    rw [List.length_replicate]
    exact Nat.sub_add_cancel hnumber
  have htokens := Statement.tokens_chars_from (h.allows.render_predicate_spelled comparison) number
  rw [hplace] at hprints
  show significant (textTokens ((Prepared.renderPredicate types comparison).run _).1) = _
  rw [hprints]
  show significant (textTokens (textFrom number (renderPredicate types comparison))) = _
  rw [textTokens, textFrom, String.toList_ofList, htokens, Option.getD_some]

/-- A text of three tokens that stands for a constant. -/
theorem constant_reads {written : String} {value : Bool} (number : Nat) (char : Char)
    (hwritten : significant (textTokens written) = [.word ['1'], .symbol '=', .word [char]])
    (hvalue : operand [.token (.word ['1']), .token (.symbol '='), .token (.word [char])] =
      .constant value) :
    ReadsAs (significant (tokensFrom number [.text written])) (.constant value) := by
  rw [Statement.tokens_from_text, Statement.tokens_from_nil, List.append_nil, hwritten]
  have hreads : Reads [.word ['1'], .symbol '=', .word [char]]
      [.token (.word ['1']), .token (.symbol '='), .token (.word [char])] :=
    (Reads.word ['1']).append ((Reads.token (by decide) (by decide)).append (Reads.word [char]))
  refine ⟨_, hreads, .of_quiet ?_, hvalue⟩
  simp [Item.isQuiet, Item.isWord, andWord, orWord, betweenWord]

theorem group_tokens (number : Nat) (statement : Statement) :
    significant (tokensFrom number (.text "(" :: (statement ++ [.text ")"]))) =
      .symbol '(' :: (significant (tokensFrom number statement) ++ [.symbol ')']) := by
  have hclosing : significant (textTokens ")") = [.symbol ')'] := by decide +kernel
  rw [Statement.tokens_from_text, significant_append, significant_opening,
    Statement.tokens_from_append,
    significant_append, Statement.tokens_from_text, Statement.tokens_from_nil, List.append_nil,
    hclosing]
  rfl

/-- A comparison is one atom. -/
theorem comparison_reads (h : TypesQuiet types) {number : Nat} (hnumber : 0 < number)
    {comparison : Predicate} {field : String} {kind : ValueKind} {test : Statement}
    (htest : IsTest test)
    (hwritten : renderPredicate types comparison = columnExpression field kind ++ test) :
    ReadsAs (significant (tokensFrom number (renderPredicate types comparison)))
      (.atom (writtenAs types (number, comparison))) := by
  rw [written_as_eq h hnumber, hwritten]
  exact test_reads htest number field kind

mutual

theorem predicate_reads (h : TypesQuiet types) {number : Nat} (hnumber : 0 < number)
    (predicate : Predicate) :
    ReadsAs (significant (tokensFrom number (renderPredicate types predicate)))
      ((conditionFrom number predicate).map (writtenAs types)) := by
  match predicate with
  | .compare field comparison value kind =>
      have hoperator : ∀ token ∈ significant (textTokens (operatorText comparison)),
          token.isQuiet = true := by
        cases comparison <;> decide +kernel
      have hne : significant (textTokens (operatorText comparison)) ≠ [] := by
        cases comparison <;> decide +kernel
      have hblank : IsQuiet [.text " "] := .text (by decide +kernel)
      have htest : IsTest (.text " " :: .text (operatorText comparison) :: .text " " ::
          placeholder types field value kind) := by
        refine (hblank.append ((IsQuiet.text hoperator).append
          (hblank.append (placeholder_quiet h field value kind)))).test fun number => ?_
        simp [hne]
      exact comparison_reads h hnumber htest rfl
  | .isNull field negated =>
      have htest : IsTest [.text (if negated then " IS NOT NULL" else " IS NULL")] := by
        refine (IsQuiet.text ?_).test fun number => ?_
        · cases negated <;> decide +kernel
        · rw [Statement.tokens_from_text, Statement.tokens_from_nil, List.append_nil]
          cases negated <;> decide +kernel
      exact comparison_reads h hnumber htest rfl
  | .oneOf field [] kind => exact constant_reads number '0' (by decide +kernel) rfl
  | .oneOf field (value :: rest) kind =>
      exact comparison_reads h hnumber (in_list_test h field (value :: rest) kind) rfl
  | .between field low high kind =>
      exact comparison_reads h hnumber (between_test h field low high kind) rfl
  | .like field pattern =>
      have hword : ∀ token ∈ significant (textTokens
          (if isDotted field then " LIKE " else "::text LIKE ")), token.isQuiet = true := by
        cases isDotted field <;> decide +kernel
      have hne : significant (textTokens
          (if isDotted field then " LIKE " else "::text LIKE ")) ≠ [] := by
        cases isDotted field <;> decide +kernel
      have htest : IsTest [.text (if isDotted field then " LIKE " else "::text LIKE "),
          .parameter (.text pattern)] := by
        refine ((IsQuiet.text hword).append (.parameter _)).test fun number => ?_
        rw [List.cons_append, Statement.tokens_from_text, significant_append]
        simp [hne]
      exact comparison_reads h hnumber htest rfl
  | .any [] => exact constant_reads number '0' (by decide +kernel) rfl
  | .any (first :: rest) =>
      obtain ⟨parts, hreads, hwhole, hmap⟩ :=
        predicates_read h significant_or hnumber (first :: rest)
      have hne : parts ≠ [] := by
        rintro rfl
        cases hmap
      have hgroup := ReadsAs.group hreads
      rw [read_level_or hne hwhole, hmap] at hgroup
      rw [renderPredicate, group_tokens]
      simpa [conditionFrom, Function.comp_def] using hgroup
  | .all [] => exact constant_reads number '1' (by decide +kernel) rfl
  | .all (first :: rest) =>
      obtain ⟨parts, hreads, hwhole, hmap⟩ :=
        predicates_read h significant_and hnumber (first :: rest)
      have hne : parts ≠ [] := by
        rintro rfl
        cases hmap
      have hgroup := ReadsAs.group hreads
      rw [read_level_and hne hwhole, hmap] at hgroup
      rw [renderPredicate, group_tokens]
      simpa [conditionFrom] using hgroup
termination_by structural predicate

theorem predicates_read (h : TypesQuiet types) {separator : String} {connective : List Char}
    (hseparator : significant (textTokens separator) = [.word connective]) {number : Nat}
    (hnumber : 0 < number) (predicates : List Predicate) :
    ∃ parts, Reads (significant (tokensFrom number
        (Statement.joined separator (renderPredicates types predicates))))
        (joinItems connective parts) ∧
      (∀ found ∈ parts, Whole found) ∧
      parts.map operand =
        (conditionsFrom number predicates).map (Condition.map (writtenAs types)) := by
  match predicates with
  | [] => exact ⟨[], .nil, nofun, rfl⟩
  | predicate :: rest =>
      obtain ⟨part, hreads, hwhole, hpart⟩ := predicate_reads h hnumber predicate
      -- The placeholders of the others start behind the values of this one.
      obtain ⟨parts, hothers, hwholeOthers, hmap⟩ := predicates_read h hseparator
        (Nat.add_pos_left hnumber predicate.boundValues.length) rest
      refine ⟨part :: parts, ?_, ?_, ?_⟩
      · cases rest with
        | nil =>
            obtain rfl : parts = [] := List.map_eq_nil_iff.mp hmap
            rw [renderPredicates, renderPredicates, Statement.joined_single]
            exact hreads
        | cons next others =>
            obtain ⟨nextPart, nextParts, rfl⟩ : ∃ part others, parts = part :: others :=
              List.exists_cons_of_ne_nil (by rintro rfl; cases hmap)
            rw [renderPredicates, renderPredicates, Statement.joined_cons_cons,
              Statement.tokens_from_append, significant_append, parameters_render_predicate,
              Statement.tokens_from_text, significant_append, hseparator]
            exact hreads.append ((Reads.word connective).append hothers)
      · intro found hfound
        rcases List.mem_cons.mp hfound with rfl | hfound
        · exact hwhole
        · exact hwholeOthers found hfound
      · rw [List.map_cons, hpart, hmap]
        rfl
termination_by structural predicates

end

/-- The clause of predicates by itself. -/
def clause (types : ColumnTypes) (predicates : List Predicate) : Prepared :=
  .written (Prepared.whereClause types predicates)

theorem clause_eq_prepared (predicates : List Predicate) :
    clause types predicates = (whereClause types predicates).prepared :=
  (prints_where_clause types predicates).written

theorem clause_chars (predicates : List Predicate) :
    (clause types predicates).sql.toList = charsFrom 1 (whereClause types predicates) := by
  rw [clause_eq_prepared, prepared_sql, Statement.sql, String.toList_ofList]

/-- A clause is read back as the tree of its predicates. -/
theorem clause_reads (h : TypesQuiet types) (predicates : List Predicate) :
    ∃ condition : Condition (Nat × Predicate),
      readClause (clause types predicates).sql.toList =
        some (condition.map (writtenAs types)) ∧
      condition.atoms = Predicate.comparisonsOf 1 predicates ∧
      ∀ truth : Predicate → Bool,
        condition.eval (truth ∘ Prod.snd) = Predicate.combineAll truth predicates := by
  rw [clause_chars]
  cases predicates with
  | nil => exact ⟨.constant true, rfl, rfl, fun _ => rfl⟩
  | cons first rest =>
      obtain ⟨parts, hreads, hwhole, hmap⟩ :=
        predicates_read h significant_and Nat.one_pos (first :: rest)
      have hne : parts ≠ [] := by
        rintro rfl
        cases hmap
      have hread := hreads.read_condition
      rw [read_level_and hne hwhole, hmap] at hread
      refine ⟨.someOf [.allOf (conditionsFrom 1 (first :: rest))], ?_, ?_, ?_⟩
      · have htokens : (tokens? (charsFrom 1 (whereClause types (first :: rest)))).map significant =
            some (.word ['W', 'H', 'E', 'R', 'E'] :: significant (tokensFrom 1
              (Statement.joined " AND " (renderPredicates types (first :: rest))))) := by
          rw [Statement.tokens_chars_from (h.allows.where_clause_spelled (first :: rest)),
            Option.map_some, whereClause, if_neg (by simp), Statement.tokens_from_text,
            significant_append, significant_where]
          rfl
        rw [read_clause_where htokens, hread, Condition.map_some_of, List.map_singleton,
          Condition.map_all_of]
      · simpa [Condition.atoms] using atoms_conditions_from 1 (first :: rest)
      · intro truth
        simpa [Condition.eval] using (eval_conditions_from truth 1 (first :: rest)).1

/-- The clause stands between texts that do not depend on the predicates. -/
theorem clause_in_statements (table : String) (query : SelectQuery) :
    (∃ before after, ∀ predicates,
      (Prepared.select types table { query with predicates }).sql =
        before ++ (clause types predicates).sql ++ after) ∧
    ∃ before, ∀ predicates,
      (Prepared.count types table { query with predicates }).sql =
        before ++ (clause types predicates).sql := by
  constructor
  · refine ⟨"SELECT " ++ Prepared.columnList query.columns ++ " FROM " ++
      Prepared.qualifiedTable table, Prepared.orderClause query.orders ++
        (Prepared.numberClause " LIMIT " query.limit ++
          Prepared.numberClause " OFFSET " query.offset), fun predicates => ?_⟩
    rw [← String.append_assoc, ← String.append_assoc]
    rfl
  · exact ⟨"SELECT COUNT(*) AS " ++ Prepared.quoted "aggregate" ++ " FROM " ++
      Prepared.qualifiedTable table, fun predicates => rfl⟩

/-- The clause of a query, read by the rules of SQL, is a tree over the comparisons of the
predicates, each as it is written, and has the truth value that the walk of the predicates gives
under the same truth values of the comparisons; on the comparisons that a row satisfies, the walk
is the one that picks the row. The texts of the types must not join conditions themselves, which
those in quotes do not, nor does a query without types. -/
theorem clause_keeps_structure [Libraries] [LawfulLibraries] (h : TypesQuiet types)
    (table : String) (query : SelectQuery) :
    (∃ before after, ∀ predicates,
      (Prepared.select types table { query with predicates }).sql =
        before ++ (clause types predicates).sql ++ after) ∧
    (∃ before, ∀ predicates,
      (Prepared.count types table { query with predicates }).sql =
        before ++ (clause types predicates).sql) ∧
    ∀ predicates,
      (∃ condition : Condition (Nat × Predicate),
        readClause (clause types predicates).sql.toList =
          some (condition.map (writtenAs types)) ∧
        condition.atoms = Predicate.comparisonsOf 1 predicates ∧
        ∀ truth : Predicate → Bool,
          condition.eval (truth ∘ Prod.snd) = Predicate.combineAll truth predicates) ∧
      ∀ row, Predicate.combineAll (Predicate.holds row) predicates =
          Predicate.holdsAll row predicates ∧
        ∀ answer, Predicate.testAll row predicates = .ok answer →
          Predicate.combineAll (Predicate.holds row) predicates = answer := by
  obtain ⟨hselect, hcount⟩ := clause_in_statements table query
  refine ⟨hselect, hcount, ?_⟩
  intro predicates
  refine ⟨clause_reads h predicates, fun row => ?_⟩
  have hwalk := Predicate.combine_all_holds row predicates
  exact ⟨hwalk, fun answer hanswer => hwalk.trans (Predicate.holds_of_test_all hanswer)⟩

end Clause

open scoped Bundled in
/-- A range of a column with a type of two numbers, or a missing state with an empty list, and a
title; the range keeps its own AND. -/
theorem clause_keeps_structure_of_search :
    let types : ColumnTypes := [("rank", "numeric(10, 2)")]
    let range : Predicate := .between "rank" (.number (.int 1)) (.number (.int 9)) .number
    let missing : Predicate := .isNull "meta.state" false
    let titled : Predicate := .like "title" "% OR 1 = 1"
    let predicates : List Predicate := [.any [range, .all [missing, .oneOf "id" [] .text]], titled]
    TypesQuiet types ∧
    ∃ condition : Condition (Nat × Predicate),
      readClause (clause types predicates).sql.toList =
        some (condition.map (writtenAs types)) ∧
      condition.atoms = [(1, range), (3, missing), (3, titled)] ∧
      ∀ truth : Predicate → Bool, condition.eval (truth ∘ Prod.snd) =
        ((truth range || truth missing && false) && truth titled) := by
  intro types range missing titled predicates
  have htypes : TypesQuiet types := by
    intro entry hentry
    cases List.mem_singleton.mp hentry
    have hname : Quiet [.word "numeric".toList] := .of_tokens (by decide +kernel)
    have hnumbers : Quiet [.word ['1', '0'], .symbol ',', .word ['2']] :=
      .of_tokens (by decide +kernel)
    exact ⟨[.word "numeric".toList, .symbol '(', .word ['1', '0'], .symbol ',', .symbol ' ',
      .word ['2'], .symbol ')'], by decide +kernel, hname.append hnumbers.group⟩
  obtain ⟨-, -, hclause⟩ := clause_keeps_structure htypes "posts" {}
  obtain ⟨⟨condition, hread, hatoms, heval⟩, -⟩ := hclause predicates
  refine ⟨htypes, condition, hread, hatoms, fun truth => ?_⟩
  rw [heval]
  simp [predicates, range, missing, titled, Predicate.combineAll, Predicate.combineSome,
    Predicate.combine]

end Sql

end EntityGate
