import EntityGate.Query.Identifier
import EntityGate.Query.Select
import EntityGate.Sql.Prepared

/-!
# Rendering queries and writes

The statements for a query, for counting its rows and for writing one row. Names are always
quoted and values always bound. A field with dots is a path: its first segment is a column and
the others are keys of nested JSON.
-/

namespace EntityGate.Sql

open Identifier (isDotted segments)

/-- The types to which the bound values of columns are cast, by column. -/
abbrev ColumnTypes := List (String × String)

/-- The operator of a comparison. -/
def operatorText : Comparison → String
  | .eq => "="
  | .neq => "<>"
  | .lt => "<"
  | .lte => "<="
  | .gt => ">"
  | .gte => ">="

/-- The word for a direction. -/
def directionText : SortDirection → String
  | .ascending => "ASC"
  | .descending => "DESC"

/-- The column and the keys of a field. -/
def splitField (field : String) : String × List String :=
  match segments field with
  | column :: keys => (column, keys)
  | [] => ("", [])

namespace Prepared

/-! ## Texts without values -/

/-- A name as an identifier. -/
def quoted (name : String) : String := String.ofList (quotedChars '"' name.toList)

/-- A key of nested JSON as a literal. -/
def jsonKey (key : String) : String := String.ofList (quotedChars '\'' key.toList)

/-- A table, of which each part between dots is quoted. -/
def qualifiedTable (table : String) : String := ".".intercalate ((segments table).map quoted)

/-- The keys of a path, each after an arrow. -/
def pathKeys (keys : List String) : String :=
  String.join (keys.map fun key => "->" ++ jsonKey key)

/-- The keys of a path, of which the last one gives its value as text. -/
def textPathKeys : List String → String
  | [] => ""
  | [key] => "->>" ++ jsonKey key
  | key :: rest => "->" ++ jsonKey key ++ textPathKeys rest

/-- The expression for the value of a field. -/
def columnExpression (field : String) (kind : ValueKind) : String :=
  let (column, keys) := splitField field
  if kind = .json then "to_jsonb(" ++ quoted column ++ pathKeys keys ++ ")"
  else if keys.isEmpty then quoted column
  else
    match kind.cast? with
    | some cast => "(" ++ quoted column ++ textPathKeys keys ++ ")::" ++ cast
    | none => quoted column ++ textPathKeys keys

/-- The expression of a selected column; a path keeps its JSON value and is named by the path. -/
def selectExpression (column : String) : String :=
  let (head, keys) := splitField column
  if keys.isEmpty then quoted column
  else quoted head ++ pathKeys keys ++ " AS " ++ quoted column

/-- The selected columns; a star for all of them. -/
def columnList (columns : List String) : String :=
  if columns.isEmpty then "*" else ", ".intercalate (columns.map selectExpression)

/-- The clause that orders the rows; none without orderings. -/
def orderClause (orders : List OrderTerm) : String :=
  if orders.isEmpty then ""
  else
    " ORDER BY " ++ ", ".intercalate (orders.map fun order =>
      columnExpression order.field .text ++ " " ++ directionText order.direction)

/-- A clause with a number; none without one. -/
def numberClause (keyword : String) : Option Nat → String
  | none => ""
  | some number => keyword ++ toString number

/-! ## Texts that bind values -/

/-- Binds a value and gives its placeholder, cast as the kind, the column or the path asks. -/
def placeholder (types : ColumnTypes) (field : String) (value : Json) (kind : ValueKind) :
    Building String := do
  let number ← bindValue (.ofKind kind value)
  if kind = .json then return "$" ++ toString number ++ "::jsonb"
  if isDotted field then
    match kind.cast? with
    | some cast => return "$" ++ toString number ++ "::" ++ cast
    | none => return "$" ++ toString number
  match types.lookup field with
  | some type => return "$" ++ toString number ++ "::" ++ type
  | none => return "$" ++ toString number

/-- Conditions in parentheses with a connective between them; a constant for none. -/
def group (connective constant : String) (parts : List String) : String :=
  if parts.isEmpty then constant else "(" ++ connective.intercalate parts ++ ")"

mutual

/-- The condition of a predicate. -/
def renderPredicate (types : ColumnTypes) : Predicate → Building String
  | .compare field comparison value kind => do
    let written ← placeholder types field value kind
    return columnExpression field kind ++ " " ++ operatorText comparison ++ " " ++ written
  | .isNull field negated =>
    return columnExpression field .text ++ (if negated then " IS NOT NULL" else " IS NULL")
  | .oneOf field values kind => do
    if values.isEmpty then return "1 = 0"
    let written ← values.mapM fun value => placeholder types field value kind
    return columnExpression field kind ++ " IN (" ++ ", ".intercalate written ++ ")"
  | .between field low high kind => do
    let lowest ← placeholder types field low kind
    let highest ← placeholder types field high kind
    return columnExpression field kind ++ " BETWEEN " ++ lowest ++ " AND " ++ highest
  | .like field pattern => do
    let number ← bindValue (.text pattern)
    let test := if isDotted field then " LIKE " else "::text LIKE "
    return columnExpression field .text ++ test ++ "$" ++ toString number
  | .any alternatives => do
    return group " OR " "1 = 0" (← renderPredicates types alternatives)
  | .all conditions => do
    return group " AND " "1 = 1" (← renderPredicates types conditions)

/-- The conditions of predicates, one by one. -/
def renderPredicates (types : ColumnTypes) : List Predicate → Building (List String)
  | [] => return []
  | predicate :: rest => do
    let first ← renderPredicate types predicate
    let others ← renderPredicates types rest
    return first :: others

end

/-- The clause that restricts the rows; none without predicates. -/
def whereClause (types : ColumnTypes) (predicates : List Predicate) : Building String := do
  if predicates.isEmpty then return ""
  return " WHERE " ++ " AND ".intercalate (← renderPredicates types predicates)

/-- A placeholder for an attribute; null is written and not bound. -/
def attributeValue (types : ColumnTypes) (column : String) (value : Json) : Building String :=
  if value.isNull then return "NULL" else placeholder types column value .text

/-- The assignment of an attribute. -/
def setting (types : ColumnTypes) (field : String × Json) : Building String := do
  return quoted field.1 ++ " = " ++ (← attributeValue types field.1 field.2)

/-- The condition that picks the row with a key. -/
def keyCondition (types : ColumnTypes) (primaryKey : String) (key : Json) : Building String := do
  return " WHERE " ++ quoted primaryKey ++ " = " ++ (← placeholder types primaryKey key .text)

/-! ## Statements -/

/-- The statement that fetches the rows of a query. -/
def select (types : ColumnTypes) (table : String) (query : SelectQuery) : Prepared :=
  .written do
    let clause ← whereClause types query.predicates
    return "SELECT " ++ columnList query.columns ++ " FROM " ++ qualifiedTable table ++ clause ++
      orderClause query.orders ++ numberClause " LIMIT " query.limit ++
      numberClause " OFFSET " query.offset

/-- The statement that counts the rows of a query, order and window aside. -/
def count (types : ColumnTypes) (table : String) (query : SelectQuery) : Prepared :=
  .written do
    let clause ← whereClause types query.predicates
    return "SELECT COUNT(*) AS " ++ quoted "aggregate" ++ " FROM " ++ qualifiedTable table ++
      clause

/-- The statement that inserts a row and returns it. -/
def insert (types : ColumnTypes) (table : String) (attributes : JsonFields) : Prepared :=
  .written do
    if attributes.isEmpty then
      return "INSERT INTO " ++ qualifiedTable table ++ " DEFAULT VALUES RETURNING *"
    let columns := attributes.map fun field => quoted field.1
    let values ← attributes.mapM fun field => attributeValue types field.1 field.2
    return "INSERT INTO " ++ qualifiedTable table ++ " (" ++ ", ".intercalate columns ++
      ") VALUES (" ++ ", ".intercalate values ++ ") RETURNING *"

/-- The statement that sets attributes of the row with a key, never the key itself, and returns
the row; without attributes it only reads the row. -/
def update (types : ColumnTypes) (table primaryKey : String) (key : Json)
    (attributes : JsonFields) : Prepared :=
  .written do
    let changes := attributes.filter fun field => field.1 != primaryKey
    let settings ← changes.mapM (setting types)
    let condition ← keyCondition types primaryKey key
    if settings.isEmpty then
      return "SELECT * FROM " ++ qualifiedTable table ++ condition
    return "UPDATE " ++ qualifiedTable table ++ " SET " ++ ", ".intercalate settings ++
      condition ++ " RETURNING *"

/-- The statement that deletes the row with a key. -/
def delete (types : ColumnTypes) (table primaryKey : String) (key : Json) : Prepared :=
  .written do
    return "DELETE FROM " ++ qualifiedTable table ++ (← keyCondition types primaryKey key)

end Prepared

end EntityGate.Sql
