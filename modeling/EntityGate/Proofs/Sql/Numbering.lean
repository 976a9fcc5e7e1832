import EntityGate.Proofs.Sql.Fragments

/-!
# Numbers in the order of the text

A statement draws the numbers of its values while it is rendered, and its text is put together from
parts that are already numbered. `Prints` says of a part that its numbers follow those drawn before
and stand in its text from left to right: what it writes and binds is what its fragments do, behind
any values bound before. From this the whole statements are those of the fragments, see
`select_eq_prepared` and its siblings.
-/

namespace EntityGate.Sql

open Identifier (isDotted segments)
open Statement (parameters charsFrom joined)

/-- The number of a value is its place among the bound ones. -/
@[simp] theorem run_bind_value (bound : List BoundValue) (value : BoundValue) :
    (bindValue value).run bound = pure (bound.length + 1, bound ++ [value]) := by
  simp [bindValue]

/-! ## Texts of fragments -/

/-- The text of a statement whose first parameter has the number. -/
def textFrom (number : Nat) (statement : Statement) : String :=
  String.ofList (charsFrom number statement)

section TextFrom

variable (number : Nat) (rest : Statement)

@[simp] theorem text_from_nil : textFrom number [] = "" := rfl

@[simp] theorem text_from_text (written : String) :
    textFrom number (.text written :: rest) = written ++ textFrom number rest := by
  simp [textFrom, charsFrom]

@[simp] theorem text_from_name (column : String) :
    textFrom number (.name column :: rest) = Prepared.quoted column ++ textFrom number rest := by
  simp [textFrom, charsFrom, Prepared.quoted]

@[simp] theorem text_from_key (segment : String) :
    textFrom number (.key segment :: rest) = Prepared.jsonKey segment ++ textFrom number rest := by
  simp [textFrom, charsFrom, Prepared.jsonKey]

@[simp] theorem text_from_parameter (value : BoundValue) :
    textFrom number (.parameter value :: rest) =
      "$" ++ (toString number ++ textFrom (number + 1) rest) := by
  rw [textFrom, charsFrom, ← String.toList_inj]
  simp [textFrom, Nat.toString_eq_repr]

@[simp] theorem text_from_append (first second : Statement) :
    textFrom number (first ++ second) =
      textFrom number first ++ textFrom (number + (parameters first).length) second := by
  rw [textFrom, Statement.chars_from_append, String.ofList_append]
  rfl

end TextFrom

/-! ## Texts without values -/

/-- The statement binds nothing and is written as the text wherever it stands. -/
structure WrittenAs (statement : Statement) (text : String) : Prop where
  parameters : parameters statement = []
  text : ∀ number, textFrom number statement = text

namespace WrittenAs

variable {first second : Statement} {before after : String}

theorem nil : WrittenAs [] "" := ⟨rfl, fun _ => rfl⟩

theorem append (hfirst : WrittenAs first before) (hsecond : WrittenAs second after) :
    WrittenAs (first ++ second) (before ++ after) := by
  refine ⟨?_, fun number => ?_⟩
  · rw [Statement.parameters_append, hfirst.parameters, hsecond.parameters]
    rfl
  · rw [text_from_append, hfirst.text, hsecond.text]

theorem written (text : String) : WrittenAs [.text text] text := ⟨rfl, by simp⟩

theorem name (column : String) : WrittenAs [.name column] (Prepared.quoted column) :=
  ⟨rfl, by simp⟩

theorem key (segment : String) : WrittenAs [.key segment] (Prepared.jsonKey segment) :=
  ⟨rfl, by simp⟩

theorem joined {α : Type} {render : α → Statement} {write : α → String} (separator : String)
    (h : ∀ item, WrittenAs (render item) (write item)) (items : List α) :
    WrittenAs (joined separator (items.map render)) (separator.intercalate (items.map write)) := by
  induction items with
  | nil => exact nil
  | cons item rest ih =>
      cases rest with
      | nil => simpa using h item
      | cons next others =>
          have hwhole := (h item).append ((written separator).append ih)
          simpa [String.append_assoc] using hwhole

end WrittenAs

theorem qualified_table_written (table : String) :
    WrittenAs (qualifiedTable table) (Prepared.qualifiedTable table) :=
  .joined "." .name (segments table)

theorem path_keys_written (keys : List String) :
    WrittenAs (pathKeys keys) (Prepared.pathKeys keys) := by
  unfold pathKeys Prepared.pathKeys
  induction keys with
  | nil => exact .nil
  | cons key rest ih =>
      have hwhole := (WrittenAs.written "->").append ((WrittenAs.key key).append ih)
      simpa [String.append_assoc] using hwhole

theorem text_path_keys_written (keys : List String) :
    WrittenAs (textPathKeys keys) (Prepared.textPathKeys keys) := by
  fun_induction textPathKeys keys with
  | case1 => exact .nil
  | case2 key => exact (WrittenAs.written "->>").append (.key key)
  | case3 key rest hrest ih =>
      have hwhole := (WrittenAs.written "->").append ((WrittenAs.key key).append ih)
      rw [Prepared.textPathKeys, String.append_assoc]
      · exact hwhole
      · exact hrest

theorem column_expression_written (field : String) (kind : ValueKind) :
    WrittenAs (columnExpression field kind) (Prepared.columnExpression field kind) := by
  have hcolumn := WrittenAs.name (splitField field).1
  have htext := hcolumn.append (text_path_keys_written (splitField field).2)
  unfold columnExpression Prepared.columnExpression
  dsimp only
  split
  · have hpath := hcolumn.append ((path_keys_written (splitField field).2).append (.written ")"))
    simpa [String.append_assoc] using (WrittenAs.written "to_jsonb(").append hpath
  · split
    · exact hcolumn
    · cases kind.cast? with
      | none => exact htext
      | some cast =>
          have hcast := htext.append ((WrittenAs.written ")::").append (.written cast))
          simpa [String.append_assoc] using (WrittenAs.written "(").append hcast

theorem select_expression_written (column : String) :
    WrittenAs (selectExpression column) (Prepared.selectExpression column) := by
  unfold selectExpression Prepared.selectExpression
  dsimp only
  split
  · exact .name column
  · have halias := (WrittenAs.written " AS ").append (.name column)
    have hpath := (path_keys_written (splitField column).2).append halias
    simpa [String.append_assoc] using (WrittenAs.name (splitField column).1).append hpath

theorem column_list_written (columns : List String) :
    WrittenAs (columnList columns) (Prepared.columnList columns) := by
  unfold columnList Prepared.columnList
  split
  · exact .written "*"
  · exact .joined ", " select_expression_written columns

theorem order_clause_written (orders : List OrderTerm) :
    WrittenAs (orderClause orders) (Prepared.orderClause orders) := by
  have hterm (order : OrderTerm) := (column_expression_written order.field .text).append
    ((WrittenAs.written " ").append (.written (directionText order.direction)))
  unfold orderClause Prepared.orderClause
  split
  · exact .nil
  · have horders := (WrittenAs.written " ORDER BY ").append (.joined ", " hterm orders)
    simpa [String.append_assoc] using horders

theorem number_clause_written (keyword : String) (number : Option Nat) :
    WrittenAs (numberClause keyword number) (Prepared.numberClause keyword number) := by
  cases number with
  | none => exact .nil
  | some number =>
      rw [Prepared.numberClause, Nat.toString_eq_repr, Nat.repr_eq_ofList_toDigits]
      exact (WrittenAs.written keyword).append (.written _)

/-! ## Parts that bind values -/

/-- Behind any values bound before, the part writes the text of the statement and binds the values
of its parameters. -/
def Prints (part : Building String) (statement : Statement) : Prop :=
  ∀ bound, part.run bound =
    pure (textFrom (bound.length + 1) statement, bound ++ parameters statement)

/-- The texts of statements, each numbered behind those before it. -/
def textsFrom : Nat → List Statement → List String
  | _, [] => []
  | number, statement :: rest =>
    textFrom number statement :: textsFrom (number + (parameters statement).length) rest

/-- The parts write the texts of the statements and bind their values, one after the other. -/
def PrintsAll (parts : Building (List String)) (statements : List Statement) : Prop :=
  ∀ bound, parts.run bound =
    pure (textsFrom (bound.length + 1) statements, bound ++ statements.flatMap parameters)

theorem text_from_joined (separator : String) (number : Nat) (statements : List Statement) :
    textFrom number (joined separator statements) =
      separator.intercalate (textsFrom number statements) := by
  induction statements generalizing number with
  | nil => rfl
  | cons statement rest ih =>
      cases rest with
      | nil => simp [textsFrom]
      | cons next others =>
          rw [Statement.joined_cons_cons, text_from_append, text_from_text, ih, textsFrom]
          simp only [textsFrom, String.intercalate_cons_cons, String.append_assoc]

theorem parameters_joined (separator : String) (statements : List Statement) :
    parameters (joined separator statements) = statements.flatMap parameters := by
  induction statements with
  | nil => rfl
  | cons statement rest ih =>
      cases rest with
      | nil => simp
      | cons next others =>
          rw [Statement.joined_cons_cons, Statement.parameters_append, parameters_text, ih]
          rfl

theorem texts_from_eq_nil_iff {number : Nat} {statements : List Statement} :
    textsFrom number statements = [] ↔ statements = [] := by
  cases statements <;> simp [textsFrom]

theorem prints_placeholder (types : ColumnTypes) (field : String) (value : Json)
    (kind : ValueKind) :
    Prints (Prepared.placeholder types field value kind) (placeholder types field value kind) := by
  intro bound
  unfold Prepared.placeholder placeholder
  rw [StateT.run_bind, run_bind_value, pure_bind]
  split
  · simp [String.append_assoc]
  · split
    · cases kind.cast? <;> simp [String.append_assoc]
    · cases types.lookup field <;> simp [String.append_assoc]

/-- Parts that are rendered one by one draw their numbers one after the other. -/
theorem prints_map {α : Type} {write : α → Building String} {render : α → Statement}
    (h : ∀ item, Prints (write item) (render item)) (items : List α) :
    PrintsAll (items.mapM write) (items.map render) := by
  intro bound
  induction items generalizing bound with
  | nil => simp [textsFrom]
  | cons item rest ih => simp [h item bound, ih, textsFrom, Nat.add_right_comm]

/-- The numbers of a group are those of its parts. -/
theorem prints_group (connective constant : String) {parts : Building (List String)}
    {statements : List Statement} (hne : statements ≠ []) (h : PrintsAll parts statements) :
    Prints (do return Prepared.group connective constant (← parts))
      (.text "(" :: (joined connective statements ++ [.text ")"])) := by
  intro bound
  simp [h bound, Prepared.group, texts_from_eq_nil_iff, hne, text_from_joined,
    parameters_joined, String.append_assoc]

mutual

theorem prints_predicate (types : ColumnTypes) (predicate : Predicate) :
    Prints (Prepared.renderPredicate types predicate) (renderPredicate types predicate) := by
  match predicate with
  | .compare field comparison value kind =>
      intro bound
      have hcolumn := column_expression_written field kind
      have hvalue := prints_placeholder types field value kind bound
      simp [Prepared.renderPredicate, renderPredicate, hvalue, hcolumn.text, hcolumn.parameters,
        String.append_assoc]
  | .isNull field negated =>
      intro bound
      have hcolumn := column_expression_written field .text
      simp [Prepared.renderPredicate, renderPredicate, hcolumn.text, hcolumn.parameters]
  | .oneOf field values kind =>
      intro bound
      have hcolumn := column_expression_written field kind
      have hvalues := prints_map (fun value => prints_placeholder types field value kind) values
      rw [Prepared.renderPredicate, renderPredicate]
      split
      · simp
      · simp [hvalues bound, hcolumn.text, hcolumn.parameters, text_from_joined,
          parameters_joined, String.append_assoc]
  | .between field low high kind =>
      intro bound
      have hcolumn := column_expression_written field kind
      have hvalue (value : Json) := prints_placeholder types field value kind
      simp [Prepared.renderPredicate, renderPredicate, hvalue low bound, hvalue high _,
        hcolumn.text, hcolumn.parameters, String.append_assoc, Nat.add_right_comm]
  | .like field pattern =>
      intro bound
      have hcolumn := column_expression_written field .text
      simp [Prepared.renderPredicate, renderPredicate, hcolumn.text, hcolumn.parameters,
        String.append_assoc]
  | .any [] | .all [] =>
      intro bound
      simp [Prepared.renderPredicate, Prepared.renderPredicates, Prepared.group, renderPredicate]
  | .any (first :: rest) =>
      rw [Prepared.renderPredicate, renderPredicate]
      exact prints_group " OR " "1 = 0" nofun (prints_predicates types (first :: rest))
  | .all (first :: rest) =>
      rw [Prepared.renderPredicate, renderPredicate]
      exact prints_group " AND " "1 = 1" nofun (prints_predicates types (first :: rest))
termination_by structural predicate

theorem prints_predicates (types : ColumnTypes) (predicates : List Predicate) :
    PrintsAll (Prepared.renderPredicates types predicates) (renderPredicates types predicates) := by
  match predicates with
  | [] =>
      intro bound
      simp [Prepared.renderPredicates, renderPredicates, textsFrom]
  | predicate :: rest =>
      intro bound
      have hfirst := prints_predicate types predicate
      have hrest := prints_predicates types rest
      simp [Prepared.renderPredicates, renderPredicates, hfirst bound, hrest _, textsFrom,
        Nat.add_right_comm]
termination_by structural predicates

end

theorem prints_where_clause (types : ColumnTypes) (predicates : List Predicate) :
    Prints (Prepared.whereClause types predicates) (whereClause types predicates) := by
  intro bound
  unfold Prepared.whereClause whereClause
  split
  · simp
  · simp [prints_predicates types predicates bound, text_from_joined, parameters_joined]

theorem prints_attribute_value (types : ColumnTypes) (column : String) (value : Json) :
    Prints (Prepared.attributeValue types column value) (attributeValue types column value) := by
  unfold Prepared.attributeValue attributeValue
  split
  · intro bound
    simp
  · exact prints_placeholder types column value .text

theorem prints_setting (types : ColumnTypes) (field : String × Json) :
    Prints (Prepared.setting types field)
      (.name field.1 :: .text " = " :: attributeValue types field.1 field.2) := by
  intro bound
  simp [Prepared.setting, prints_attribute_value types field.1 field.2 bound,
    String.append_assoc]

theorem prints_key_condition (types : ColumnTypes) (primaryKey : String) (key : Json) :
    Prints (Prepared.keyCondition types primaryKey key) (keyCondition types primaryKey key) := by
  intro bound
  simp [Prepared.keyCondition, keyCondition, prints_placeholder types primaryKey key .text bound,
    String.append_assoc]

/-! ## Statements -/

/-- The text and the bound values of a statement. -/
def Statement.prepared (statement : Statement) : Prepared :=
  ⟨statement.sql, statement.parameters⟩

theorem prepared_sql (statement : Statement) : statement.prepared.sql = statement.sql := rfl

theorem Prints.written {text : Building String} {statement : Statement}
    (h : Prints text statement) : Prepared.written text = statement.prepared := by
  rw [Prepared.written, h []]
  rfl

variable (types : ColumnTypes) (table : String)

theorem select_eq_prepared (query : SelectQuery) :
    Prepared.select types table query = (select types table query).prepared := by
  refine Prints.written fun bound => ?_
  have hcolumns := column_list_written query.columns
  have htable := qualified_table_written table
  have horders := order_clause_written query.orders
  have hlimit := number_clause_written " LIMIT " query.limit
  have hoffset := number_clause_written " OFFSET " query.offset
  simp [select, prints_where_clause types query.predicates bound, hcolumns.text,
    hcolumns.parameters, htable.text, htable.parameters, horders.text, horders.parameters,
    hlimit.text, hlimit.parameters, hoffset.text, hoffset.parameters, String.append_assoc]

theorem count_eq_prepared (query : SelectQuery) :
    Prepared.count types table query = (count types table query).prepared := by
  refine Prints.written fun bound => ?_
  have htable := qualified_table_written table
  simp [count, prints_where_clause types query.predicates bound, htable.text,
    htable.parameters, String.append_assoc]

theorem insert_eq_prepared (attributes : JsonFields) :
    Prepared.insert types table attributes = (insert types table attributes).prepared := by
  refine Prints.written fun bound => ?_
  have htable := qualified_table_written table
  have hnames := WrittenAs.joined ", " (fun field : String × Json => .name field.1) attributes
  have hvalues := prints_map (fun field : String × Json =>
    prints_attribute_value types field.1 field.2) attributes
  unfold insert
  split
  · simp [htable.text, htable.parameters, String.append_assoc]
  · simp [hvalues bound, htable.text, htable.parameters, hnames.text, hnames.parameters,
      text_from_joined, parameters_joined, String.append_assoc]

theorem update_eq_prepared (primaryKey : String) (key : Json) (attributes : JsonFields) :
    Prepared.update types table primaryKey key attributes =
      (update types table primaryKey key attributes).prepared := by
  refine Prints.written fun bound => ?_
  have htable := qualified_table_written table
  have hsettings := prints_map (prints_setting types)
    (attributes.filter fun field => field.1 != primaryKey)
  have hcondition := prints_key_condition types primaryKey key
  by_cases hempty : (attributes.filter fun field => field.1 != primaryKey) = []
  · simp [update, hempty, hcondition bound, htable.text, htable.parameters, String.append_assoc]
  · simp [update, hempty, hsettings bound, hcondition _, htable.text, htable.parameters,
      texts_from_eq_nil_iff, text_from_joined, parameters_joined, String.append_assoc,
      Nat.add_right_comm]

theorem delete_eq_prepared (primaryKey : String) (key : Json) :
    Prepared.delete types table primaryKey key =
      (delete types table primaryKey key).prepared := by
  refine Prints.written fun bound => ?_
  have htable := qualified_table_written table
  simp [delete, prints_key_condition types primaryKey key bound, htable.text, htable.parameters,
    String.append_assoc]

end EntityGate.Sql
