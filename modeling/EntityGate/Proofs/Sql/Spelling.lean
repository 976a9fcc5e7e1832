import EntityGate.Proofs.Data.Entries
import EntityGate.Proofs.Sql.Numbering
import EntityGate.Proofs.Sql.Tokens
import Mathlib.Data.List.Chain

/-!
# The tokens of rendered statements

Every statement is spelled with a fixed vocabulary, the types of the columns and numbers, and where
two fragments meet, one of them brings a character that joins nothing. So each fragment keeps its
own tokens when the text is read again: `tokens_chars_from` reads a spelled statement, and
`select_spelled` and its siblings say that all statements are spelled.
-/

namespace EntityGate.Sql

open Identifier (isDotted segments)

/-! ## Fragments next to each other -/

/-- Whether the character never joins another one. -/
def isFree (char : Char) : Bool := !isWordChar char && !isMark char

/-- The tokens of a text with balanced quotes. -/
def textTokens (written : String) : List Token := (tokens? written.toList).getD []

namespace Fragment

/-- The characters of a fragment, a parameter under the given number. -/
def chars (number : Nat) : Fragment → List Char
  | .text written => written.toList
  | .name column => quotedChars '"' column.toList
  | .key segment => quotedChars '\'' segment.toList
  | .parameter _ => '$' :: Nat.toDigits 10 number

/-- The tokens of a fragment, a parameter under the given number. -/
def tokens (number : Nat) : Fragment → List Token
  | .text written => textTokens written
  | .name column => [.quoted '"' column.toList]
  | .key segment => [.quoted '\'' segment.toList]
  | .parameter _ => [.word ('$' :: Nat.toDigits 10 number)]

/-- The number after the fragment. -/
def next (number : Nat) : Fragment → Nat
  | .parameter _ => number + 1
  | _ => number

/-- Whether the fragment is text that starts with a free character. -/
def startsFree : Fragment → Bool
  | .text written => written.toList.head?.any isFree
  | _ => false

/-- Whether the fragment is text that ends with a free character. -/
def endsFree : Fragment → Bool
  | .text written => written.toList.getLast?.any isFree
  | _ => false

/-- A free character stands where the two fragments meet. -/
def Meets (first second : Fragment) : Prop := first.endsFree = true ∨ second.startsFree = true

end Fragment

theorem parted_of_free_end {first : List Char} (h : first.getLast?.any isFree = true)
    (second : List Char) : Parted first second := by
  intro last hlast next _ hjoins
  rw [Option.mem_def.mp hlast, Option.any_some, isFree, Bool.and_eq_true, Bool.not_eq_true',
    Bool.not_eq_true'] at h
  rcases hjoins with ⟨hword, -⟩ | ⟨-, hmark⟩
  · exact absurd hword (by simp [h.1])
  · exact absurd hmark (by simp [h.2])

theorem parted_of_free_start {second : List Char} (h : second.head?.any isFree = true)
    (first : List Char) : Parted first second := by
  intro last _ next hnext hjoins
  rw [Option.mem_def.mp hnext, Option.any_some, isFree, Bool.and_eq_true, Bool.not_eq_true',
    Bool.not_eq_true'] at h
  rcases hjoins with ⟨-, hword⟩ | ⟨rfl, hmark⟩
  · exact absurd hword (by simp [h.1])
  · exact absurd hmark (by simp [h.2])

/-- A number, as a placeholder or by itself, is one word. -/
theorem digit_is_word_char {char : Char} {number : Nat} (h : char ∈ Nat.toDigits 10 number) :
    isWordChar char = true := by
  have hdigit := Nat.isDigit_of_mem_toDigits (by decide) (by decide) h
  simp [isWordChar, Char.isAlphanum, hdigit]

namespace Statement

variable {P Q : String → Prop} {first second statement : Statement} {number : Nat}

/-! ## Tokens of a statement -/

/-- The tokens of a statement whose first parameter has the given number. -/
def tokensFrom : Nat → Statement → List Token
  | _, [] => []
  | number, fragment :: rest =>
    fragment.tokens number ++ tokensFrom (fragment.next number) rest

theorem chars_from_cons (number : Nat) (fragment : Fragment) (rest : Statement) :
    charsFrom number (fragment :: rest) =
      fragment.chars number ++ charsFrom (fragment.next number) rest := by
  cases fragment with
  | text | name | key => rfl
  | parameter => rfl

@[simp] theorem tokens_from_nil (number : Nat) : tokensFrom number [] = [] := rfl

@[simp] theorem tokens_from_text (number : Nat) (written : String) (rest : Statement) :
    tokensFrom number (.text written :: rest) =
      textTokens written ++ tokensFrom number rest := rfl

@[simp] theorem tokens_from_name (number : Nat) (column : String) (rest : Statement) :
    tokensFrom number (.name column :: rest) =
      .quoted '"' column.toList :: tokensFrom number rest := rfl

@[simp] theorem tokens_from_append (number : Nat) (first second : Statement) :
    tokensFrom number (first ++ second) =
      tokensFrom number first ++ tokensFrom (number + (parameters first).length) second := by
  induction first generalizing number with
  | nil => rfl
  | cons fragment rest ih =>
      show fragment.tokens number ++ tokensFrom (fragment.next number) (rest ++ second) = _
      rw [ih, ← List.append_assoc]
      cases fragment with
      | parameter value =>
          show _ = tokensFrom number (.parameter value :: rest) ++
            tokensFrom (number + ((parameters rest).length + 1)) second
          rw [Nat.add_comm (parameters rest).length, ← Nat.add_assoc]
          rfl
      | text | name | key => rfl

/-! ## Spelled statements -/

/-- All texts of the statement are allowed ones, and its fragments meet at free characters. -/
structure Spelled (P : String → Prop) (statement : Statement) : Prop where
  texts : ∀ written, .text written ∈ statement → P written
  meets : List.IsChain Fragment.Meets statement

/-- Each fragment of a spelled statement keeps its own tokens in the text. -/
theorem tokens_chars_from
    (h : Spelled (fun written => (tokens? written.toList).isSome = true) statement)
    (number : Nat) : tokens? (charsFrom number statement) = some (tokensFrom number statement) := by
  induction statement generalizing number with
  | nil => rfl
  | cons fragment rest ih =>
      have hrest := ih ⟨fun written hwritten => h.texts written (List.mem_cons_of_mem _ hwritten),
        h.meets.of_cons⟩ (fragment.next number)
      have hfragment : tokens? (fragment.chars number) = some (fragment.tokens number) := by
        cases fragment with
        | text written =>
            obtain ⟨found, hfound⟩ := Option.isSome_iff_exists.mp
              (h.texts written List.mem_cons_self)
            simp [Fragment.chars, Fragment.tokens, textTokens, hfound]
        | name column => exact tokens_quoted (by decide) column.toList
        | key segment => exact tokens_quoted (by decide) segment.toList
        | parameter value =>
            refine tokens_word (List.cons_ne_nil _ _) ?_
            intro char hchar
            rcases List.mem_cons.mp hchar with rfl | hdigit
            · decide
            · exact digit_is_word_char hdigit
      have hparted : Parted (fragment.chars number)
          (charsFrom (fragment.next number) rest) := by
        -- Of the two fragments at the border one is text, with a free character there.
        cases rest with
        | nil =>
            intro last _ next hnext
            cases hnext
        | cons following others =>
            rcases h.meets.rel with hends | hstarts
            · cases fragment with
              | text written => exact parted_of_free_end hends _
              | name | key | parameter => cases hends
            · cases following with
              | text written =>
                  refine parted_of_free_start ?_ _
                  cases hwritten : written.toList with
                  | nil => simp [Fragment.startsFree, hwritten] at hstarts
                  | cons char chars =>
                      simpa [charsFrom, Fragment.startsFree, hwritten] using hstarts
              | name | key | parameter => cases hstarts
      rw [chars_from_cons, tokens_append hfragment hparted, hrest]
      rfl

theorem Spelled.mono (h : Spelled P statement) (hPQ : ∀ written, P written → Q written) :
    Spelled Q statement :=
  ⟨fun written hwritten => hPQ written (h.texts written hwritten), h.meets⟩

/-- The text of a spelled statement is read fragment by fragment. -/
theorem tokens_sql (h : Spelled P statement)
    (hread : ∀ written, P written → (tokens? written.toList).isSome = true) :
    tokens? statement.sql.toList = some (tokensFrom 1 statement) := by
  rw [sql, String.toList_ofList, tokens_chars_from (h.mono hread)]

theorem spelled_nil : Spelled P [] := ⟨fun _ h => absurd h List.not_mem_nil, .nil⟩

theorem spelled_single {fragment : Fragment}
    (h : ∀ written, .text written = fragment → P written) : Spelled P [fragment] :=
  ⟨fun written hwritten => h written (List.mem_singleton.mp hwritten), .singleton fragment⟩

theorem spelled_text {written : String} (h : P written) : Spelled P [.text written] :=
  spelled_single fun _ heq => Fragment.text.inj heq ▸ h

theorem spelled_name (column : String) : Spelled P [.name column] := spelled_single nofun

theorem spelled_key (segment : String) : Spelled P [.key segment] := spelled_single nofun

theorem spelled_parameter (value : BoundValue) : Spelled P [.parameter value] :=
  spelled_single nofun

theorem Spelled.append (hfirst : Spelled P first) (hsecond : Spelled P second)
    (hmeets : ∀ last ∈ first.getLast?, ∀ next ∈ second.head?, Fragment.Meets last next) :
    Spelled P (first ++ second) := by
  refine ⟨?_, List.isChain_append.mpr ⟨hfirst.meets, hsecond.meets, hmeets⟩⟩
  intro written hwritten
  rcases List.mem_append.mp hwritten with h | h
  · exact hfirst.texts written h
  · exact hsecond.texts written h

/-- A text that ends with a free character stands in front of a statement. -/
theorem Spelled.after {written : String} (h : P written)
    (hends : (Fragment.text written).endsFree = true) (hsecond : Spelled P second) :
    Spelled P (.text written :: second) := by
  refine (spelled_text h).append hsecond ?_
  intro last hlast _ _
  cases hlast
  exact .inl hends

/-- A text that starts with a free character stands behind a statement. -/
theorem Spelled.before {written : String} (h : P written)
    (hstarts : (Fragment.text written).startsFree = true) (hfirst : Spelled P first) :
    Spelled P (first ++ [.text written]) := by
  refine hfirst.append (spelled_text h) ?_
  intro _ _ next hnext
  cases hnext
  exact .inr hstarts

/-- A text with free characters on both sides stands between two statements. -/
theorem Spelled.between {written : String} (hfirst : Spelled P first) (h : P written)
    (hstarts : (Fragment.text written).startsFree = true)
    (hends : (Fragment.text written).endsFree = true) (hsecond : Spelled P second) :
    Spelled P (first ++ .text written :: second) := by
  refine hfirst.append (hsecond.after h hends) ?_
  intro _ _ next hnext
  cases hnext
  exact .inr hstarts

/-- Spelled parts with a separator between them that is free on both sides. -/
theorem spelled_joined {separator : String} (h : P separator)
    (hstarts : (Fragment.text separator).startsFree = true)
    (hends : (Fragment.text separator).endsFree = true) {parts : List Statement}
    (hparts : ∀ part ∈ parts, Spelled P part) : Spelled P (joined separator parts) := by
  induction parts with
  | nil => exact spelled_nil
  | cons part rest ih =>
      have hpart := hparts part List.mem_cons_self
      cases rest with
      | nil => rwa [joined_single]
      | cons next others =>
          exact hpart.between h hstarts hends
            (ih fun other hother => hparts other (List.mem_cons_of_mem _ hother))

end Statement

/-! ## Rendered statements -/

/-- The fixed texts of all statements. -/
def vocabulary : List String :=
  ["=", "<>", "<", "<=", ">", ">=", " ", ".", ", ", "(", ")", "->", "->>", ")::", "::", "::jsonb",
    "::text LIKE ", " LIKE ", " IN (", " BETWEEN ", " AND ", " OR ", " IS NULL", " IS NOT NULL",
    "1 = 0", "1 = 1", "to_jsonb(", "bigint", "numeric", "boolean", "date", "timestamptz", "SELECT ",
    "SELECT COUNT(*) AS ", "SELECT * FROM ", "*", " AS ", " FROM ", " WHERE ", " ORDER BY ", "ASC",
    "DESC", " LIMIT ", " OFFSET ", "INSERT INTO ", " DEFAULT VALUES RETURNING *", " (",
    ") VALUES (", ") RETURNING *", "NULL", "UPDATE ", " SET ", " = ", " RETURNING *",
    "DELETE FROM "]

/-- A fixed text that starts with a free character. -/
abbrev Follows (written : String) : Prop :=
  written ∈ vocabulary ∧ (Fragment.text written).startsFree = true

/-- A fixed text that ends with a free character. -/
abbrev Leads (written : String) : Prop :=
  written ∈ vocabulary ∧ (Fragment.text written).endsFree = true

/-- What holds of the fixed texts, the types of the columns and the numbers. -/
structure Allows (types : ColumnTypes) (P : String → Prop) : Prop where
  fixed : ∀ written ∈ vocabulary, P written
  types : ∀ entry ∈ types, P entry.2
  number : ∀ number, P (String.ofList (Nat.toDigits 10 number))

namespace Allows

open Statement

section Parts

variable {types : ColumnTypes} {P : String → Prop} {first second : Statement} {written : String}

theorem leading (h : Allows types P) (hwritten : Leads written) (hsecond : Spelled P second) :
    Spelled P (.text written :: second) :=
  hsecond.after (h.fixed written hwritten.1) hwritten.2

theorem following (h : Allows types P) (hwritten : Follows written) (hfirst : Spelled P first) :
    Spelled P (first ++ [.text written]) :=
  hfirst.before (h.fixed written hwritten.1) hwritten.2

theorem between (h : Allows types P) (hfollows : Follows written) (hleads : Leads written)
    (hfirst : Spelled P first) (hsecond : Spelled P second) :
    Spelled P (first ++ .text written :: second) :=
  hfirst.between (h.fixed written hfollows.1) hfollows.2 hleads.2 hsecond

theorem joined (h : Allows types P) (hfollows : Follows written) (hleads : Leads written)
    {parts : List Statement} (hparts : ∀ part ∈ parts, Spelled P part) :
    Spelled P (joined written parts) :=
  spelled_joined (h.fixed written hfollows.1) hfollows.2 hleads.2 hparts

end Parts

variable {types : ColumnTypes} {P : String → Prop} (h : Allows types P)
include h

theorem placeholder_spelled (field : String) (value : Json) (kind : ValueKind) :
    Spelled P (placeholder types field value kind) := by
  have hbound : Spelled P [.parameter (.ofKind kind value)] := spelled_parameter _
  unfold placeholder
  split
  · exact h.following (by decide) hbound
  · split
    · cases hcast : kind.cast? with
      | none => exact hbound
      | some cast =>
          have hknown : cast ∈ vocabulary := by
            cases kind <;> cases hcast <;> decide
          exact h.between (by decide) (by decide) hbound
            (spelled_text (h.fixed cast hknown))
    · cases htype : types.lookup field with
      | none => exact hbound
      | some type =>
          exact h.between (by decide) (by decide) hbound
            (spelled_text (h.types _ (mem_of_lookup htype)))

theorem qualified_table_spelled (table : String) : Spelled P (qualifiedTable table) := by
  refine h.joined (by decide) (by decide) ?_
  intro part hpart
  obtain ⟨segment, -, rfl⟩ := List.mem_map.mp hpart
  exact spelled_name segment

theorem append_path_keys {first : Statement} (hfirst : Spelled P first) (keys : List String) :
    Spelled P (first ++ pathKeys keys) := by
  induction keys generalizing first with
  | nil => rwa [pathKeys, List.flatMap_nil, List.append_nil]
  | cons key rest ih =>
      have hkey := ih (h.between (by decide : Follows "->") (by decide) hfirst (spelled_key key))
      rwa [List.append_assoc] at hkey

theorem append_text_path_keys {first : Statement} (hfirst : Spelled P first)
    (keys : List String) : Spelled P (first ++ textPathKeys keys) := by
  fun_induction textPathKeys keys generalizing first with
  | case1 => rwa [List.append_nil]
  | case2 key => exact h.between (by decide) (by decide) hfirst (spelled_key key)
  | case3 key rest _ ih =>
      have hkey := ih (h.between (by decide : Follows "->") (by decide) hfirst (spelled_key key))
      rwa [List.append_assoc] at hkey

theorem column_expression_spelled (field : String) (kind : ValueKind) :
    Spelled P (columnExpression field kind) := by
  have hcolumn : Spelled P [.name (splitField field).1] := spelled_name _
  have htext := h.append_text_path_keys hcolumn (splitField field).2
  unfold columnExpression
  dsimp only
  split
  · exact h.leading (by decide)
      (h.following (by decide) (h.append_path_keys hcolumn (splitField field).2))
  · split
    · exact hcolumn
    · cases hcast : kind.cast? with
      | none => exact htext
      | some cast =>
          have hknown : cast ∈ vocabulary := by
            cases kind <;> cases hcast <;> decide
          exact h.leading (by decide)
            (h.between (by decide) (by decide) htext (spelled_text (h.fixed cast hknown)))

theorem select_expression_spelled (column : String) : Spelled P (selectExpression column) := by
  unfold selectExpression
  dsimp only
  split
  · exact spelled_name column
  · exact h.between (by decide) (by decide)
      (h.append_path_keys (spelled_name _) (splitField column).2) (spelled_name column)

omit h

mutual

theorem render_predicate_spelled (h : Allows types P) (predicate : Predicate) :
    Spelled P (renderPredicate types predicate) := by
  match predicate with
  | .compare field comparison value kind =>
      have hoperator : operatorText comparison ∈ vocabulary ∧
          (Fragment.text (operatorText comparison)).endsFree = true := by
        cases comparison <;> decide
      exact h.between (by decide) (by decide) (h.column_expression_spelled field kind)
        (h.leading hoperator (h.leading (by decide) (h.placeholder_spelled field value kind)))
  | .isNull field negated =>
      have htest : Follows (if negated then " IS NOT NULL" else " IS NULL") := by
        cases negated <;> decide
      exact h.following htest (h.column_expression_spelled field .text)
  | .oneOf field values kind =>
      rw [renderPredicate]
      split
      · exact spelled_text (h.fixed _ (by decide))
      · refine h.between (by decide) (by decide) (h.column_expression_spelled field kind)
          (h.following (by decide) (h.joined (by decide) (by decide) ?_))
        intro part hpart
        obtain ⟨value, -, rfl⟩ := List.mem_map.mp hpart
        exact h.placeholder_spelled field value kind
  | .between field low high kind =>
      exact h.between (by decide) (by decide) (h.column_expression_spelled field kind)
        (h.between (by decide) (by decide) (h.placeholder_spelled field low kind)
          (h.placeholder_spelled field high kind))
  | .like field pattern =>
      have htest : Follows (if isDotted field then " LIKE " else "::text LIKE ") ∧
          Leads (if isDotted field then " LIKE " else "::text LIKE ") := by
        cases isDotted field <;> decide
      exact h.between htest.1 htest.2 (h.column_expression_spelled field .text)
        (spelled_parameter _)
  | .any [] => exact spelled_text (h.fixed _ (by decide))
  | .any (first :: rest) =>
      exact h.leading (by decide) (h.following (by decide)
        (h.joined (by decide) (by decide) (h.render_predicates_spelled (first :: rest))))
  | .all [] => exact spelled_text (h.fixed _ (by decide))
  | .all (first :: rest) =>
      exact h.leading (by decide) (h.following (by decide)
        (h.joined (by decide) (by decide) (h.render_predicates_spelled (first :: rest))))
termination_by structural predicate

theorem render_predicates_spelled (h : Allows types P) (predicates : List Predicate) :
    ∀ part ∈ renderPredicates types predicates, Spelled P part := by
  match predicates with
  | [] => exact nofun
  | predicate :: rest =>
      intro part hpart
      rcases List.mem_cons.mp hpart with rfl | hrest
      · exact h.render_predicate_spelled predicate
      · exact h.render_predicates_spelled rest part hrest
termination_by structural predicates

end

include h

theorem where_clause_spelled (predicates : List Predicate) :
    Spelled P (whereClause types predicates) := by
  unfold whereClause
  split
  · exact spelled_nil
  · exact h.leading (by decide)
      (h.joined (by decide) (by decide) (h.render_predicates_spelled predicates))

theorem append_where_clause {first : Statement} (hfirst : Spelled P first)
    (predicates : List Predicate) : Spelled P (first ++ whereClause types predicates) := by
  have hclause := h.where_clause_spelled predicates
  unfold whereClause at hclause ⊢
  split
  · rwa [List.append_nil]
  · exact h.between (by decide) (by decide) hfirst
      (h.joined (by decide) (by decide) (h.render_predicates_spelled predicates))

theorem append_order_clause {first : Statement} (hfirst : Spelled P first)
    (orders : List OrderTerm) : Spelled P (first ++ orderClause orders) := by
  unfold orderClause
  split
  · rwa [List.append_nil]
  · refine h.between (by decide) (by decide) hfirst (h.joined (by decide) (by decide) ?_)
    intro part hpart
    obtain ⟨order, -, rfl⟩ := List.mem_map.mp hpart
    have hword : directionText order.direction ∈ vocabulary := by
      cases order.direction <;> decide
    exact h.between (by decide) (by decide) (h.column_expression_spelled order.field .text)
      (spelled_text (h.fixed _ hword))

theorem append_number_clause {first : Statement} {keyword : String} (hfollows : Follows keyword)
    (hleads : Leads keyword) (hfirst : Spelled P first) (number : Option Nat) :
    Spelled P (first ++ numberClause keyword number) := by
  cases number with
  | none => rwa [numberClause, List.append_nil]
  | some number =>
      exact h.between hfollows hleads hfirst (spelled_text (h.number number))

theorem column_list_spelled (columns : List String) : Spelled P (columnList columns) := by
  unfold columnList
  split
  · exact spelled_text (h.fixed _ (by decide))
  · refine h.joined (by decide) (by decide) ?_
    intro part hpart
    obtain ⟨column, -, rfl⟩ := List.mem_map.mp hpart
    exact h.select_expression_spelled column

theorem select_spelled (table : String) (query : SelectQuery) :
    Spelled P (select types table query) := by
  have htable := h.append_where_clause (h.qualified_table_spelled table) query.predicates
  have horders := h.append_order_clause htable query.orders
  have hwindow := h.append_number_clause (by decide : Follows " OFFSET ") (by decide)
    (h.append_number_clause (by decide : Follows " LIMIT ") (by decide) horders query.limit)
    query.offset
  simp only [List.append_assoc] at hwindow
  exact h.leading (by decide)
    (h.between (by decide) (by decide) (h.column_list_spelled query.columns) hwindow)

theorem count_spelled (table : String) (query : SelectQuery) :
    Spelled P (count types table query) :=
  h.leading (by decide) (h.between (by decide) (by decide) (spelled_name _)
    (h.append_where_clause (h.qualified_table_spelled table) query.predicates))

theorem attribute_value_spelled (column : String) (value : Json) :
    Spelled P (attributeValue types column value) := by
  unfold attributeValue
  split
  · exact spelled_text (h.fixed _ (by decide))
  · exact h.placeholder_spelled column value .text

theorem insert_spelled (table : String) (attributes : JsonFields) :
    Spelled P (insert types table attributes) := by
  have htable := h.qualified_table_spelled table
  unfold insert
  split
  · exact h.leading (by decide) (h.following (by decide) htable)
  · refine h.leading (by decide) (h.between (by decide) (by decide) htable
      (h.between (by decide) (by decide) (h.joined (by decide) (by decide) ?_)
        (h.following (by decide) (h.joined (by decide) (by decide) ?_))))
    · intro part hpart
      obtain ⟨field, -, rfl⟩ := List.mem_map.mp hpart
      exact spelled_name field.1
    · intro part hpart
      obtain ⟨field, -, rfl⟩ := List.mem_map.mp hpart
      exact h.attribute_value_spelled field.1 field.2

theorem append_key_condition {first : Statement} (hfirst : Spelled P first) (primaryKey : String)
    (key : Json) : Spelled P (first ++ keyCondition types primaryKey key) :=
  h.between (by decide) (by decide) hfirst
    (h.between (by decide) (by decide) (spelled_name primaryKey)
      (h.placeholder_spelled primaryKey key .text))

theorem update_spelled (table primaryKey : String) (key : Json) (attributes : JsonFields) :
    Spelled P (update types table primaryKey key attributes) := by
  have htable := h.qualified_table_spelled table
  unfold update
  dsimp only
  split
  · exact h.leading (by decide) (h.append_key_condition htable primaryKey key)
  · have hchanges : Spelled P (Statement.joined ", "
        ((attributes.filter fun field => field.1 != primaryKey).map fun field =>
          .name field.1 :: .text " = " :: attributeValue types field.1 field.2)) := by
      refine h.joined (by decide) (by decide) ?_
      intro part hpart
      obtain ⟨field, -, rfl⟩ := List.mem_map.mp hpart
      exact h.between (by decide) (by decide) (spelled_name field.1)
        (h.attribute_value_spelled field.1 field.2)
    have hcondition := h.following (by decide : Follows " RETURNING *")
      (h.append_key_condition hchanges primaryKey key)
    rw [List.append_assoc] at hcondition
    exact h.leading (by decide) (h.between (by decide) (by decide) htable hcondition)

theorem delete_spelled (table primaryKey : String) (key : Json) :
    Spelled P (delete types table primaryKey key) :=
  h.leading (by decide) (h.append_key_condition (h.qualified_table_spelled table) primaryKey key)

end Allows

end EntityGate.Sql
