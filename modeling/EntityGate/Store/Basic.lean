import EntityGate.Store.Matching

/-!
# Tables of rows

A store holds tables of rows in the order of insertion. A row without a key gets the next number
of its table, as long as there is one in signed 64 bits; a key that is a number moves the numbering
on. What a query selects are the rows that satisfy it, sorted, inside its window.
-/

namespace EntityGate

/-- Where the rows of an entity live: a table and its key column. -/
structure EntitySource where
  table : String
  primaryKey : String
  deriving DecidableEq, Repr, Inhabited

/-- The rows of a table and the last automatic key. -/
structure Table where
  rows : List Row := []
  lastKey : Int := 0
  deriving Repr, Inhabited

/-- Tables by name. -/
structure Store where
  tables : List (String × Table) := []
  deriving Repr, Inhabited

namespace Table

/-- The key after the given one. -/
def nextKey (key : Int) : Except Failure Int := Failure.signed64 (key + 1)

/-- The signed integer of a value. -/
def signed? : Json → Option Int
  | .number value => value.toSigned?
  | _ => none

/-- The row with a key in the given column, and the numbering after it. -/
def withKey (table : Table) (keyColumn : String) (row : Row) : Except Failure (Row × Int) :=
  match JsonFields.get? row keyColumn with
  | some value =>
    match signed? value with
    | some key => .ok (row, max table.lastKey key)
    | none => .ok (row, table.lastKey)
  | none => do
    let key ← nextKey table.lastKey
    return (JsonFields.insert row keyColumn (Json.ofInt key), key)

/-- The table with a row more, which gets a key if it has none, and the row as stored. -/
def append (table : Table) (keyColumn : String) (row : Row) : Except Failure (Table × Row) := do
  let (stored, key) ← table.withKey keyColumn row
  return ({ rows := table.rows ++ [stored], lastKey := key }, stored)

/-- Whether the row has a key equal to the given one. -/
def hasKey (keyColumn : String) (key : Json) (row : Row) : Bool :=
  match JsonFields.get? row keyColumn with
  | some value => Stored.looseEq value key
  | none => false

/-- The row with the attributes set, the key column aside. -/
def setAttributes (keyColumn : String) (attributes : JsonFields) (row : Row) : Row :=
  (attributes.filter fun field => field.1 != keyColumn).foldl
    (fun changed field => JsonFields.insert changed field.1 field.2) row

/-- Sets attributes of the first row with the key; absent when there is none. -/
def updateRows (keyColumn : String) (key : Json) (attributes : JsonFields) :
    List Row → Option (List Row × Row)
  | [] => none
  | row :: rest =>
    if hasKey keyColumn key row then
      let changed := setAttributes keyColumn attributes row
      some (changed :: rest, changed)
    else (updateRows keyColumn key attributes rest).map fun result => (row :: result.1, result.2)

end Table

/-- Whether the first row may stand before the second under the orderings. -/
def compareRows : List OrderTerm → Row → Row → Ordering
  | [], _, _ => .eq
  | term :: terms, left, right =>
    let order := Stored.sortCompare (left.lookup term.field) (right.lookup term.field)
    let directed := match term.direction with
      | .ascending => order
      | .descending => order.swap
    directed.then (compareRows terms left right)

namespace SelectQuery

/-- The rows that satisfy all predicates; the first error stops the search. -/
def matching [Libraries] (query : SelectQuery) : List Row → Except RequestError (List Row)
  | [] => .ok []
  | row :: rows => do
    let found ← Predicate.testAll row query.predicates
    let others ← matching query rows
    return if found then row :: others else others

/-- The rows sorted by the orderings; without orderings they stay as they are. -/
def sorted [Libraries] (query : SelectQuery) (rows : List Row) : Except Failure (List Row) :=
  if query.orders.isEmpty then .ok rows
  else
    match Libraries.sort (compareRows query.orders) rows with
    | some sorted => .ok sorted
    | none => .error .aborted

/-- The rows inside the window. -/
def window (query : SelectQuery) (rows : List Row) : List Row :=
  let rest := rows.drop (query.offset.getD 0)
  match query.limit with
  | some limit => rest.take limit
  | none => rest

/-- What the query selects from the rows of a table. -/
def select [Libraries] (query : SelectQuery) (rows : List Row) : Except Failure (List Row) := do
  let found ← Failure.reporting (query.matching rows)
  let sorted ← query.sorted found
  return (query.window sorted).map (Row.project query.columns)

end SelectQuery

namespace Store

/-- The table of a name, empty when it was never written. -/
def table (store : Store) (name : String) : Table := (store.tables.lookup name).getD {}

/-- The rows of a table in the order of insertion. -/
def rows (store : Store) (name : String) : List Row := (store.table name).rows

/-- Replaces the entry of a table, or appends one. -/
def setEntry (name : String) (table : Table) : List (String × Table) → List (String × Table)
  | [] => [(name, table)]
  | (other, old) :: rest =>
    if other == name then (other, table) :: rest else (other, old) :: setEntry name table rest

/-- The store with a table replaced. -/
def setTable (store : Store) (name : String) (table : Table) : Store :=
  ⟨setEntry name table store.tables⟩

/-- The table with rows appended, whose key column is `id`. -/
def seedTable (table : Table) (rows : List Row) : Except Failure Table :=
  rows.foldlM (fun table row => (table.append "id" row).map Prod.fst) table

/-- The store with rows appended to a table, whose key column is `id`; values that are no objects
are skipped. -/
def seed (store : Store) (name : String) (values : List Json) : Except Failure Store :=
  (seedTable (store.table name) (values.filterMap Json.fields?)).map (store.setTable name)

/-- The rows that a query selects. -/
def fetch [Libraries] (store : Store) (source : EntitySource) (query : SelectQuery) :
    Except Failure (List Row) :=
  query.select (store.rows source.table)

/-- The number of rows that satisfy the predicates of a query. -/
def count [Libraries] (store : Store) (source : EntitySource) (query : SelectQuery) :
    Except Failure Nat :=
  Failure.reporting ((query.matching (store.rows source.table)).map List.length)

/-- The store with a row more, and the row as stored. -/
def insert (store : Store) (source : EntitySource) (attributes : JsonFields) :
    Except Failure (Store × Row) := do
  let (table, row) ← (store.table source.table).append source.primaryKey attributes
  return (store.setTable source.table table, row)

/-- The store with attributes set on the first row with the key, and the row; the row is absent
when there is none. -/
def update (store : Store) (source : EntitySource) (key : Json) (attributes : JsonFields) :
    Store × Option Row :=
  let table := store.table source.table
  match Table.updateRows source.primaryKey key attributes table.rows with
  | some (rows, row) => (store.setTable source.table { table with rows := rows }, some row)
  | none => (store, none)

/-- The store without the rows with the key, and whether there were any. -/
def delete (store : Store) (source : EntitySource) (key : Json) : Store × Bool :=
  let table := store.table source.table
  let kept := table.rows.filter fun row => !Table.hasKey source.primaryKey key row
  if kept.length < table.rows.length then
    (store.setTable source.table { table with rows := kept }, true)
  else (store, false)

end Store

namespace SelectQuery

/-- The query for its first row only. -/
def firstOnly (query : SelectQuery) : SelectQuery :=
  { query with limit := some 1, offset := none }

/-- The query for the row with a key within the scope of a query. -/
def byKey (query : SelectQuery) (source : EntitySource) (key : Json) : SelectQuery :=
  (query.addPredicate (.compare source.primaryKey .eq key .text)).firstOnly

end SelectQuery

end EntityGate
