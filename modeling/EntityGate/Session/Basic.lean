import EntityGate.Cache.Groups
import EntityGate.Paging.Page

/-!
# Sessions

What requests work on: a store, a cache and a journal of the calls made to the store. An effect
may fail, with an error to be reported or without any answer, and keeps whatever happened before it
failed.
-/

namespace EntityGate

/-- A call to the store. -/
inductive StoreCall where
  | fetch (source : EntitySource) (query : SelectQuery)
  | count (source : EntitySource) (query : SelectQuery)
  | insert (source : EntitySource) (attributes : JsonFields)
  | update (source : EntitySource) (key : Json) (attributes : JsonFields)
  | delete (source : EntitySource) (key : Json)
  deriving Repr, Inhabited

/-- A store, a cache and the calls made to the store so far. -/
structure Session where
  store : Store := {}
  cache : Cache := {}
  journal : List StoreCall := []
  deriving Repr, Inhabited

/-- What may fail and change a session. -/
abbrev Effect := ExceptT Failure (StateM Session)

namespace Session

/-- Writes a call into the journal. -/
def record (call : StoreCall) : Effect Unit :=
  modify fun session => { session with journal := session.journal ++ [call] }

/-- The rows that a query selects. -/
def fetch [Libraries] (source : EntitySource) (query : SelectQuery) : Effect (List Row) := do
  record (.fetch source query)
  liftExcept ((← get).store.fetch source query)

/-- The number of rows that satisfy the predicates of a query. -/
def count [Libraries] (source : EntitySource) (query : SelectQuery) : Effect Nat := do
  record (.count source query)
  liftExcept ((← get).store.count source query)

/-- Adds a row and returns it as stored. -/
def insert (source : EntitySource) (attributes : JsonFields) : Effect Row := do
  record (.insert source attributes)
  let session ← get
  let (store, row) ← liftExcept (session.store.insert source attributes)
  set { session with store := store }
  return row

/-- Sets attributes of the row with a key and returns it, if there is one. -/
def update (source : EntitySource) (key : Json) (attributes : JsonFields) :
    Effect (Option Row) := do
  record (.update source key attributes)
  let session ← get
  let (store, row) := session.store.update source key attributes
  set { session with store := store }
  return row

/-- Deletes the row with a key and says whether there was one. -/
def delete (source : EntitySource) (key : Json) : Effect Bool := do
  record (.delete source key)
  let session ← get
  let (store, deleted) := session.store.delete source key
  set { session with store := store }
  return deleted

/-- The first row of a query. -/
def first [Libraries] (source : EntitySource) (query : SelectQuery) : Effect (Option Row) := do
  return (← fetch source query.firstOnly).head?

/-- The row with a key within the scope of a query. -/
def find [Libraries] (source : EntitySource) (query : SelectQuery) (key : Json) :
    Effect (Option Row) := do
  return (← fetch source (query.byKey source key)).head?

/-- A change of the cache as an effect. -/
def onCache {α : Type} (action : CacheEffect α) : Effect α := fun session =>
  let (result, cache) := action.run.run session.cache
  (result, { session with cache := cache })

/-- The page of a number, both taken to be at least one. The number of rows before it has to stay
within 64 bits. -/
def paginate [Libraries] (source : EntitySource) (base : SelectQuery) (perPage page : Nat) :
    Effect ClassicPage := do
  let size := max perPage 1
  let number := max page 1
  let total ← count source base
  let offset ← liftExcept (Failure.unsigned64 ((number - 1) * size))
  let rows ← fetch source (ClassicPage.query base size offset)
  return ClassicPage.ofRows size number offset total rows

/-- The cursor of a token. -/
def decodeCursor : Option String → Effect (Option Cursor)
  | none => return none
  | some token =>
    match Cursor.ofToken? token with
    | some cursor => return some cursor
    | none => throw (.reported (.badRequest "invalid cursor"))

/-- The page after or before a position, of at least one row. A row more than a page holds is
fetched, whose number has to stay within 64 bits. -/
def cursorPaginate [Libraries] (source : EntitySource) (base : SelectQuery) (perPage : Nat)
    (token : Option String) : Effect CursorPage := do
  let size := max perPage 1
  let cursor ← decodeCursor token
  let _ ← liftExcept (Failure.unsigned64 (size + 1))
  let rows ← fetch source (CursorPage.query base source size cursor)
  return CursorPage.ofRows base source size cursor rows

/-- A result that depends on nothing as an effect, whose error is reported. -/
def ofExcept {α : Type} (result : Except RequestError α) : Effect α :=
  liftExcept (Failure.reporting result)

/-- The result of an effect and the session after it. -/
def perform {α : Type} (session : Session) (effect : Effect α) : Except Failure α × Session :=
  effect.run.run session

end Session

end EntityGate
