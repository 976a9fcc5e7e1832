import EntityGate.Proofs.Sql.Spelling
import EntityGate.Proofs.Sql.Values

/-!
# What statements are filled with

Apart from its fixed texts a statement is made of names, keys and parameters. Here is what each
statement is filled with, in the order of its text, as a walk of the query or the attributes that
it is rendered from: see `filled_select` and its siblings. The bound values and the names of a
statement are both read off this walk.
-/

namespace EntityGate.Sql

open Identifier (isDotted segments)

/-- Whether the fragment is fixed text. -/
def Fragment.isText : Fragment → Bool
  | .text _ => true
  | _ => false

/-- The fragments of a statement that are not fixed text. -/
def filled (statement : Statement) : Statement := statement.filter fun fragment => !fragment.isText

/-! ## Walks -/

/-- The parts of a table. -/
def tableFragments (table : String) : Statement := (segments table).map .name

/-- The column of a field and the keys below it. -/
def fieldFragments (field : String) : Statement :=
  .name (splitField field).1 :: (splitField field).2.map .key

/-- A selected column; a path is followed by itself as an alias. -/
def selectedFragments (column : String) : Statement :=
  if isDotted column then fieldFragments column ++ [.name column] else [.name column]

mutual

/-- The fields and the values of a condition; a comparison with an empty list has neither. -/
def conditionFragments : Predicate → Statement
  | .compare field _ value kind => fieldFragments field ++ [.parameter (.ofKind kind value)]
  | .isNull field _ => fieldFragments field
  | .oneOf _ [] _ => []
  | .oneOf field (value :: rest) kind =>
    fieldFragments field ++ (value :: rest).map fun value => .parameter (.ofKind kind value)
  | .between field low high kind =>
    fieldFragments field ++ [.parameter (.ofKind kind low), .parameter (.ofKind kind high)]
  | .like field pattern => fieldFragments field ++ [.parameter (.text pattern)]
  | .any alternatives => conditionFragmentsOf alternatives
  | .all conditions => conditionFragmentsOf conditions

/-- The fields and the values of conditions, one after the other. -/
def conditionFragmentsOf : List Predicate → Statement
  | [] => []
  | predicate :: rest => conditionFragments predicate ++ conditionFragmentsOf rest

end

/-- The bound form of an attribute; null is written and not bound. -/
def boundAttribute? (value : Json) : Option BoundValue :=
  if value.isNull then none else some (.ofKind .text value)

/-- The value of an attribute, unless it is null. -/
def valueFragments (value : Json) : Statement := (boundAttribute? value).toList.map .parameter

/-- The attributes that an update sets: all but the key. -/
def changesOf (primaryKey : String) (attributes : JsonFields) : JsonFields :=
  attributes.filter fun field => field.1 != primaryKey

/-- The assignments of an update as it renders them. -/
def settings (types : ColumnTypes) (changes : JsonFields) : Statement :=
  Statement.joined ", " (changes.map fun field =>
    .name field.1 :: .text " = " :: attributeValue types field.1 field.2)

theorem update_eq {types : ColumnTypes} (table primaryKey : String) (key : Json)
    (attributes : JsonFields) :
    update types table primaryKey key attributes =
      if (changesOf primaryKey attributes).isEmpty then
        (.text "SELECT * FROM " :: qualifiedTable table) ++ keyCondition types primaryKey key
      else
        (.text "UPDATE " :: qualifiedTable table) ++ .text " SET " ::
          (settings types (changesOf primaryKey attributes) ++
            (keyCondition types primaryKey key ++ [.text " RETURNING *"])) := rfl

/-! ## Rendered statements -/

section Filled

variable {types : ColumnTypes}

@[simp] theorem filled_nil : filled [] = [] := rfl

@[simp] theorem filled_text (written : String) (rest : Statement) :
    filled (.text written :: rest) = filled rest := rfl

@[simp] theorem filled_name (column : String) (rest : Statement) :
    filled (.name column :: rest) = .name column :: filled rest := rfl

@[simp] theorem filled_key (segment : String) (rest : Statement) :
    filled (.key segment :: rest) = .key segment :: filled rest := rfl

@[simp] theorem filled_parameter (value : BoundValue) (rest : Statement) :
    filled (.parameter value :: rest) = .parameter value :: filled rest := rfl

@[simp] theorem filled_append (first second : Statement) :
    filled (first ++ second) = filled first ++ filled second :=
  List.filter_append ..

@[simp] theorem filled_joined (separator : String) (parts : List Statement) :
    filled (Statement.joined separator parts) = parts.flatMap filled := by
  induction parts with
  | nil => rfl
  | cons part rest ih =>
      cases rest with
      | nil => simp
      | cons next others =>
          rw [Statement.joined_cons_cons, filled_append, filled_text, ih]
          rfl

@[simp] theorem filled_placeholder (field : String) (value : Json) (kind : ValueKind) :
    filled (placeholder types field value kind) = [.parameter (.ofKind kind value)] := by
  unfold placeholder
  dsimp only
  split
  · rfl
  · split
    · cases kind.cast? <;> rfl
    · cases types.lookup field <;> rfl

@[simp] theorem filled_qualified_table (table : String) :
    filled (qualifiedTable table) = tableFragments table := by
  rw [qualifiedTable, filled_joined, List.flatMap_map]
  exact List.flatMap_pure_eq_map ..

@[simp] theorem filled_path_keys (keys : List String) : filled (pathKeys keys) = keys.map .key := by
  induction keys with
  | nil => rfl
  | cons key rest ih => exact congrArg (Fragment.key key :: ·) ih

@[simp] theorem filled_text_path_keys (keys : List String) :
    filled (textPathKeys keys) = keys.map .key := by
  fun_induction textPathKeys keys with
  | case1 => rfl
  | case2 key => rfl
  | case3 key rest _ ih => exact congrArg (Fragment.key key :: ·) ih

@[simp] theorem filled_column_expression (field : String) (kind : ValueKind) :
    filled (columnExpression field kind) = fieldFragments field := by
  unfold columnExpression fieldFragments
  dsimp only
  split
  · simp
  · split
    · rename_i hkeys
      simp [List.isEmpty_iff.mp hkeys]
    · cases kind.cast? <;> simp

@[simp] theorem filled_select_expression (column : String) :
    filled (selectExpression column) = selectedFragments column := by
  unfold selectExpression selectedFragments fieldFragments
  dsimp only
  -- One of the two asks for dots and the other for keys, which is the same.
  rw [is_dotted_eq]
  cases (splitField column).2.isEmpty <;> simp

mutual

theorem filled_render_predicate (predicate : Predicate) :
    filled (renderPredicate types predicate) = conditionFragments predicate := by
  match predicate with
  | .compare field comparison value kind => simp [renderPredicate, conditionFragments]
  | .isNull field negated => simp [renderPredicate, conditionFragments]
  | .oneOf field [] kind => rfl
  | .oneOf field (value :: rest) kind =>
      rw [renderPredicate, if_neg (by simp), filled_append, filled_text, filled_append,
        filled_joined, List.flatMap_map, conditionFragments, ← List.flatMap_pure_eq_map]
      simp [Function.comp_def]
  | .between field low high kind => simp [renderPredicate, conditionFragments]
  | .like field pattern => simp [renderPredicate, conditionFragments]
  | .any [] => rfl
  | .any (first :: rest) =>
      simp [renderPredicate, conditionFragments, filled_render_predicates (first :: rest)]
  | .all [] => rfl
  | .all (first :: rest) =>
      simp [renderPredicate, conditionFragments, filled_render_predicates (first :: rest)]
termination_by structural predicate

theorem filled_render_predicates (predicates : List Predicate) :
    (renderPredicates types predicates).flatMap filled = conditionFragmentsOf predicates := by
  match predicates with
  | [] => rfl
  | predicate :: rest =>
      rw [renderPredicates, List.flatMap_cons, filled_render_predicate predicate,
        filled_render_predicates rest, conditionFragmentsOf]
termination_by structural predicates

end

@[simp] theorem filled_where_clause (predicates : List Predicate) :
    filled (whereClause types predicates) = conditionFragmentsOf predicates := by
  cases predicates with
  | nil => rfl
  | cons predicate rest =>
      rw [whereClause, if_neg (by simp), filled_text, filled_joined, filled_render_predicates]

@[simp] theorem filled_order_clause (orders : List OrderTerm) :
    filled (orderClause orders) = orders.flatMap fun order => fieldFragments order.field := by
  unfold orderClause
  split
  · rename_i hempty
    rw [List.isEmpty_iff.mp hempty]
    rfl
  · simp [List.flatMap_map]

@[simp] theorem filled_number_clause (keyword : String) (number : Option Nat) :
    filled (numberClause keyword number) = [] := by
  cases number <;> rfl

@[simp] theorem filled_column_list (columns : List String) :
    filled (columnList columns) = columns.flatMap selectedFragments := by
  unfold columnList
  split
  · rename_i hempty
    rw [List.isEmpty_iff.mp hempty]
    rfl
  · simp [List.flatMap_map]

theorem filled_select (table : String) (query : SelectQuery) :
    filled (select types table query) = query.columns.flatMap selectedFragments ++
      (tableFragments table ++ (conditionFragmentsOf query.predicates ++
        query.orders.flatMap fun order => fieldFragments order.field)) := by
  simp [select]

theorem filled_count (table : String) (query : SelectQuery) :
    filled (count types table query) =
      .name "aggregate" :: (tableFragments table ++ conditionFragmentsOf query.predicates) := by
  simp [count]

@[simp] theorem filled_attribute_value (column : String) (value : Json) :
    filled (attributeValue types column value) = valueFragments value := by
  unfold attributeValue valueFragments boundAttribute?
  split
  · rfl
  · exact filled_placeholder column value .text

theorem filled_insert (table : String) (attributes : JsonFields) :
    filled (insert types table attributes) = tableFragments table ++
      (attributes.map (fun field => .name field.1) ++
        attributes.flatMap fun field => valueFragments field.2) := by
  unfold insert
  split
  · rename_i hempty
    rw [List.isEmpty_iff.mp hempty]
    simp
  · have hnames : (attributes.map fun field => [Fragment.name field.1]).flatMap filled =
        attributes.map fun field => .name field.1 := by
      rw [List.flatMap_map]
      exact List.flatMap_pure_eq_map ..
    simp [hnames, List.flatMap_map]

@[simp] theorem filled_key_condition (primaryKey : String) (key : Json) :
    filled (keyCondition types primaryKey key) =
      [.name primaryKey, .parameter (.ofKind .text key)] := by
  simp [keyCondition]

@[simp] theorem filled_settings (changes : JsonFields) :
    filled (settings types changes) =
      changes.flatMap fun field => .name field.1 :: valueFragments field.2 := by
  simp [settings, List.flatMap_map]

theorem filled_update (table primaryKey : String) (key : Json) (attributes : JsonFields) :
    filled (update types table primaryKey key attributes) = tableFragments table ++
      ((changesOf primaryKey attributes).flatMap (fun field =>
        .name field.1 :: valueFragments field.2) ++
          [.name primaryKey, .parameter (.ofKind .text key)]) := by
  rw [update_eq]
  split
  · rename_i hempty
    rw [List.isEmpty_iff.mp hempty]
    simp
  · simp

theorem filled_delete (table primaryKey : String) (key : Json) :
    filled (delete types table primaryKey key) =
      tableFragments table ++ [.name primaryKey, .parameter (.ofKind .text key)] := by
  simp [delete]

end Filled

/-- Whatever is not picked from texts is picked from the walk. -/
theorem filter_map_filled {α : Type} {pick : Fragment → Option α}
    (h : ∀ written, pick (.text written) = none) (statement : Statement) :
    statement.filterMap pick = (filled statement).filterMap pick := by
  rw [filled, List.filterMap_filter]
  refine List.filterMap_congr fun fragment _ => ?_
  cases fragment with
  | text written => exact h written
  | name | key | parameter => rfl

end EntityGate.Sql
