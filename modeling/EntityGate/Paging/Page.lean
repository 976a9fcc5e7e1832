import EntityGate.Paging.Cursor
import EntityGate.Store.Basic

/-!
# Pages

A classic page is a window of a listing with its totals. A cursor page is the stretch of rows
after or before a position; the key column is appended to the orderings, so that positions are
unique.
-/

namespace EntityGate

/-- A page of a listing with a known number of rows. -/
structure ClassicPage where
  data : List Row
  currentPage : Nat
  perPage : Nat
  total : Nat
  lastPage : Nat
  first : Option Nat
  last : Option Nat
  deriving Repr, Inhabited

/-- A page with the positions before and after it. -/
structure CursorPage where
  data : List Row
  perPage : Nat
  next : Option String
  previous : Option String
  deriving Repr, Inhabited

/-- What a listing returns. -/
inductive PageResult where
  | classic (page : ClassicPage)
  | cursor (page : CursorPage)
  | unpaged (rows : List Row)
  deriving Repr, Inhabited

namespace PageResult

/-- The rows of the page. -/
def rows : PageResult → List Row
  | .classic page => page.data
  | .cursor page => page.data
  | .unpaged list => list

/-- Rows as a JSON array. -/
def rowsJson (list : List Row) : Json := .array (list.map .object)

/-- The page as JSON. -/
def toJson : PageResult → Json
  | .classic page => .object [
    ("data", rowsJson page.data),
    ("current_page", Json.ofNat page.currentPage),
    ("per_page", Json.ofNat page.perPage),
    ("total", Json.ofNat page.total),
    ("last_page", Json.ofNat page.lastPage),
    ("from", Json.ofNat? page.first),
    ("to", Json.ofNat? page.last)]
  | .cursor page => .object [
    ("data", rowsJson page.data),
    ("per_page", Json.ofNat page.perPage),
    ("next_cursor", Json.ofString? page.next),
    ("prev_cursor", Json.ofString? page.previous)]
  | .unpaged list => rowsJson list

end PageResult

namespace ClassicPage

/-- The query for the rows of a page, the number of rows before it being given. -/
def query (base : SelectQuery) (perPage offset : Nat) : SelectQuery :=
  { base with limit := some perPage, offset := some offset }

/-- The page of the rows found, behind a number of rows, and their total. -/
def ofRows (perPage page offset total : Nat) (rows : List Row) : ClassicPage :=
  { data := rows
    currentPage := page
    perPage := perPage
    total := total
    lastPage := max ((total + perPage - 1) / perPage) 1
    first := if rows.isEmpty then none else some (offset + 1)
    last := if rows.isEmpty then none else some (offset + rows.length) }

end ClassicPage

namespace CursorPage

/-- The orderings with the key column among them. -/
def ordersWithKey (source : EntitySource) (orders : List OrderTerm) : List OrderTerm :=
  if orders.any fun term => term.field == source.primaryKey then orders
  else orders ++ [⟨source.primaryKey, .ascending⟩]

/-- The fields of the orderings that are not among the columns, each once. -/
def missingColumns (columns : List String) : List OrderTerm → List String
  | [] => []
  | term :: terms =>
    if columns.contains term.field then missingColumns columns terms
    else term.field :: missingColumns (columns ++ [term.field]) terms

/-- The columns that are fetched for the sake of the cursors only. -/
def extraColumns (columns : List String) (orders : List OrderTerm) : List String :=
  if columns.isEmpty then [] else missingColumns columns orders

/-- The orderings the other way round. -/
def reversedOrders (orders : List OrderTerm) : List OrderTerm :=
  orders.map fun term => { term with direction := term.direction.reversed }

/-- Whether the walk goes back. -/
def isBackward (cursor : Option Cursor) : Bool :=
  match cursor with
  | some position => !position.forward
  | none => false

/-- The query for the rows of a page and one row more. -/
def query (base : SelectQuery) (source : EntitySource) (perPage : Nat) (cursor : Option Cursor) :
    SelectQuery :=
  let orders := ordersWithKey source base.orders
  let walk := if isBackward cursor then reversedOrders orders else orders
  let position := match cursor with
    | some start => [Cursor.after walk start.values]
    | none => []
  { columns := base.columns ++ extraColumns base.columns orders
    predicates := base.predicates ++ position
    orders := walk
    limit := some (perPage + 1)
    offset := none }

/-- The token of the position of a row. -/
def boundary (orders : List OrderTerm) (forward : Bool) (row : Row) : String :=
  Cursor.token ⟨orders.map fun term => (JsonFields.get? row term.field).getD .null, forward⟩

/-- The row without the columns fetched for the sake of the cursors. -/
def strip (columns : List String) (row : Row) : Row := columns.foldl JsonFields.swapRemove row

/-- The page of the rows found. -/
def ofRows (base : SelectQuery) (source : EntitySource) (perPage : Nat) (cursor : Option Cursor)
    (found : List Row) : CursorPage :=
  let orders := ordersWithKey source base.orders
  let extra := extraColumns base.columns orders
  let backward := isBackward cursor
  let hasMore : Bool := perPage < found.length
  let page := found.take perPage
  let rows := if backward then page.reverse else page
  { data := rows.map (strip extra)
    perPage := perPage
    next := if backward || hasMore then rows.getLast?.map (boundary orders true) else none
    previous :=
      if (cursor.isSome && !backward) || (backward && hasMore) then
        rows.head?.map (boundary orders false)
      else none }

end CursorPage

end EntityGate
