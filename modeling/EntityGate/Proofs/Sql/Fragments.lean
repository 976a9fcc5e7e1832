import EntityGate.Sql.Rendering

/-!
# Statements as fragments

A statement as a list of fragments: fixed text, quoted names, quoted keys and parameters. Read from
left to right it numbers its parameters by their place, so the text and the bound values cannot
disagree. The statements are given once more in this form, in which their parts can be told apart;
that the rendered texts and the values bound on the way are those of the fragments is
`select_eq_prepared` and its siblings.
-/

namespace EntityGate.Sql

open Identifier (isDotted segments)

/-- A piece of a statement. -/
inductive Fragment where
  | text (text : String)
  | name (name : String)
  | key (key : String)
  | parameter (value : BoundValue)
  deriving Repr, Inhabited

/-- A statement or a part of one. -/
abbrev Statement := List Fragment

namespace Statement

/-- The characters of a statement whose first parameter has the given number. -/
def charsFrom : Nat → Statement → List Char
  | _, [] => []
  | next, .text text :: rest => text.toList ++ charsFrom next rest
  | next, .name name :: rest => quotedChars '"' name.toList ++ charsFrom next rest
  | next, .key key :: rest => quotedChars '\'' key.toList ++ charsFrom next rest
  | next, .parameter _ :: rest => '$' :: (Nat.toDigits 10 next ++ charsFrom (next + 1) rest)

/-- The text of a statement. -/
def sql (statement : Statement) : String := String.ofList (charsFrom 1 statement)

/-- The value that a fragment binds. -/
def boundValue? : Fragment → Option BoundValue
  | .parameter value => some value
  | _ => none

/-- The bound values in the order of their numbers. -/
def parameters (statement : Statement) : List BoundValue := statement.filterMap boundValue?

/-- Parts with a separating text between them. -/
def joined (separator : String) (parts : List Statement) : Statement :=
  (parts.intersperse [.text separator]).flatten

/-! ## Statements one after the other -/

variable {first second statement : Statement}

@[simp] theorem parameters_append (first second : Statement) :
    parameters (first ++ second) = parameters first ++ parameters second :=
  List.filterMap_append

@[simp] theorem joined_nil (separator : String) : joined separator [] = [] := rfl

@[simp] theorem joined_single (separator : String) (part : Statement) :
    joined separator [part] = part := List.append_nil part

@[simp] theorem joined_cons_cons (separator : String) (part next : Statement)
    (parts : List Statement) :
    joined separator (part :: next :: parts) =
      part ++ .text separator :: joined separator (next :: parts) := rfl

/-- The second of two statements is numbered behind the parameters of the first. -/
theorem chars_from_append (number : Nat) (first second : Statement) :
    charsFrom number (first ++ second) =
      charsFrom number first ++ charsFrom (number + (parameters first).length) second := by
  induction first generalizing number with
  | nil => rfl
  | cons fragment rest ih =>
      cases fragment with
      | parameter value =>
          have hnumber : number + (parameters (.parameter value :: rest)).length =
              number + 1 + (parameters rest).length := by
            rw [Nat.add_assoc, Nat.add_comm 1]
            rfl
          rw [hnumber, List.cons_append, charsFrom, charsFrom, ih, List.cons_append,
            List.append_assoc]
      | text | name | key =>
          rw [List.cons_append, charsFrom, charsFrom, ih, List.append_assoc]
          rfl

end Statement

@[simp] theorem parameters_nil : Statement.parameters [] = [] := rfl

@[simp] theorem parameters_text (written : String) (rest : Statement) :
    Statement.parameters (.text written :: rest) = Statement.parameters rest := rfl

@[simp] theorem parameters_name (column : String) (rest : Statement) :
    Statement.parameters (.name column :: rest) = Statement.parameters rest := rfl

@[simp] theorem parameters_key (segment : String) (rest : Statement) :
    Statement.parameters (.key segment :: rest) = Statement.parameters rest := rfl

@[simp] theorem parameters_parameter (value : BoundValue) (rest : Statement) :
    Statement.parameters (.parameter value :: rest) = value :: Statement.parameters rest := rfl

/-! ## Rendered statements -/

/-- A placeholder for a value, cast as the kind, the column or the path asks. -/
def placeholder (types : ColumnTypes) (field : String) (value : Json) (kind : ValueKind) :
    Statement :=
  let bound := Fragment.parameter (.ofKind kind value)
  if kind = .json then [bound, .text "::jsonb"]
  else if isDotted field then
    match kind.cast? with
    | some cast => [bound, .text "::", .text cast]
    | none => [bound]
  else
    match types.lookup field with
    | some type => [bound, .text "::", .text type]
    | none => [bound]

/-- A table, of which each part between dots is quoted. -/
def qualifiedTable (table : String) : Statement :=
  Statement.joined "." ((segments table).map fun part => [.name part])

/-- The keys of a path, each after an arrow. -/
def pathKeys (keys : List String) : Statement :=
  keys.flatMap fun key => [.text "->", .key key]

/-- The keys of a path, of which the last one gives its value as text. -/
def textPathKeys : List String → Statement
  | [] => []
  | [key] => [.text "->>", .key key]
  | key :: rest => .text "->" :: .key key :: textPathKeys rest

/-- The expression for the value of a field. -/
def columnExpression (field : String) (kind : ValueKind) : Statement :=
  let (column, keys) := splitField field
  if kind = .json then .text "to_jsonb(" :: .name column :: (pathKeys keys ++ [.text ")"])
  else if keys.isEmpty then [.name column]
  else
    match kind.cast? with
    | some cast =>
      .text "(" :: .name column :: (textPathKeys keys ++ [.text ")::", .text cast])
    | none => .name column :: textPathKeys keys

/-- The expression of a selected column; a path keeps its JSON value and is named by the path. -/
def selectExpression (column : String) : Statement :=
  let (head, keys) := splitField column
  if keys.isEmpty then [.name column]
  else .name head :: (pathKeys keys ++ [.text " AS ", .name column])

mutual

/-- The condition of a predicate. -/
def renderPredicate (types : ColumnTypes) : Predicate → Statement
  | .compare field comparison value kind =>
    columnExpression field kind ++ .text " " :: .text (operatorText comparison) :: .text " " ::
      placeholder types field value kind
  | .isNull field negated =>
    columnExpression field .text ++ [.text (if negated then " IS NOT NULL" else " IS NULL")]
  | .oneOf field values kind =>
    if values.isEmpty then [.text "1 = 0"]
    else
      columnExpression field kind ++ .text " IN (" ::
        (Statement.joined ", " (values.map fun value => placeholder types field value kind) ++
          [.text ")"])
  | .between field low high kind =>
    columnExpression field kind ++ .text " BETWEEN " ::
      (placeholder types field low kind ++ .text " AND " :: placeholder types field high kind)
  | .like field pattern =>
    columnExpression field .text ++
      [.text (if isDotted field then " LIKE " else "::text LIKE "), .parameter (.text pattern)]
  | .any [] => [.text "1 = 0"]
  | .any (first :: rest) =>
    .text "(" :: (Statement.joined " OR " (renderPredicates types (first :: rest)) ++ [.text ")"])
  | .all [] => [.text "1 = 1"]
  | .all (first :: rest) =>
    .text "(" :: (Statement.joined " AND " (renderPredicates types (first :: rest)) ++ [.text ")"])

/-- The conditions of predicates, one by one. -/
def renderPredicates (types : ColumnTypes) : List Predicate → List Statement
  | [] => []
  | predicate :: rest => renderPredicate types predicate :: renderPredicates types rest

end

/-- The clause that restricts the rows; none without predicates. -/
def whereClause (types : ColumnTypes) (predicates : List Predicate) : Statement :=
  if predicates.isEmpty then []
  else .text " WHERE " :: Statement.joined " AND " (renderPredicates types predicates)

/-- The clause that orders the rows; none without orderings. -/
def orderClause (orders : List OrderTerm) : Statement :=
  if orders.isEmpty then []
  else
    .text " ORDER BY " :: Statement.joined ", " (orders.map fun order =>
      columnExpression order.field .text ++ [.text " ", .text (directionText order.direction)])

/-- A clause with a number; none without one. -/
def numberClause (keyword : String) : Option Nat → Statement
  | none => []
  | some number => [.text keyword, .text (String.ofList (Nat.toDigits 10 number))]

/-- The selected columns; a star for all of them. -/
def columnList (columns : List String) : Statement :=
  if columns.isEmpty then [.text "*"]
  else Statement.joined ", " (columns.map selectExpression)

/-- The statement that fetches the rows of a query. -/
def select (types : ColumnTypes) (table : String) (query : SelectQuery) : Statement :=
  .text "SELECT " :: (columnList query.columns ++ .text " FROM " :: (qualifiedTable table ++
    (whereClause types query.predicates ++ (orderClause query.orders ++
      (numberClause " LIMIT " query.limit ++ numberClause " OFFSET " query.offset)))))

/-- The statement that counts the rows of a query, order and window aside. -/
def count (types : ColumnTypes) (table : String) (query : SelectQuery) : Statement :=
  .text "SELECT COUNT(*) AS " :: .name "aggregate" :: .text " FROM " ::
    (qualifiedTable table ++ whereClause types query.predicates)

/-- A placeholder for an attribute; null is written and not bound. -/
def attributeValue (types : ColumnTypes) (column : String) (value : Json) : Statement :=
  if value.isNull then [.text "NULL"] else placeholder types column value .text

/-- The statement that inserts a row and returns it. -/
def insert (types : ColumnTypes) (table : String) (attributes : JsonFields) : Statement :=
  if attributes.isEmpty then
    .text "INSERT INTO " :: (qualifiedTable table ++ [.text " DEFAULT VALUES RETURNING *"])
  else
    .text "INSERT INTO " :: (qualifiedTable table ++ .text " (" ::
      (Statement.joined ", " (attributes.map fun field => [.name field.1]) ++
        .text ") VALUES (" ::
          (Statement.joined ", " (attributes.map fun field =>
            attributeValue types field.1 field.2) ++ [.text ") RETURNING *"])))

/-- The condition that picks the row with a key. -/
def keyCondition (types : ColumnTypes) (primaryKey : String) (key : Json) : Statement :=
  .text " WHERE " :: .name primaryKey :: .text " = " :: placeholder types primaryKey key .text

/-- The statement that sets attributes of the row with a key, never the key itself, and returns
the row; without attributes it only reads the row. -/
def update (types : ColumnTypes) (table primaryKey : String) (key : Json)
    (attributes : JsonFields) : Statement :=
  let changes := attributes.filter fun field => field.1 != primaryKey
  if changes.isEmpty then
    .text "SELECT * FROM " :: (qualifiedTable table ++ keyCondition types primaryKey key)
  else
    .text "UPDATE " :: (qualifiedTable table ++ .text " SET " ::
      (Statement.joined ", " (changes.map fun field =>
          .name field.1 :: .text " = " :: attributeValue types field.1 field.2) ++
        (keyCondition types primaryKey key ++ [.text " RETURNING *"])))

/-- The statement that deletes the row with a key. -/
def delete (types : ColumnTypes) (table primaryKey : String) (key : Json) : Statement :=
  .text "DELETE FROM " :: (qualifiedTable table ++ keyCondition types primaryKey key)

end EntityGate.Sql
