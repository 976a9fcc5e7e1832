import EntityGate.Proofs.Paging.Columns
import EntityGate.Proofs.Paging.Position
import EntityGate.Proofs.Session.Effects

/-!
# One page of a forward walk

A forward walk stands after the row that it showed last. Ahead of it are the rows of the query
that come after that row, and a page shows the first of them: see
`CursorPage.perform_cursor_paginate`.
-/

namespace EntityGate

/-- A page together with the stored rows that it shows. -/
structure Visit where
  page : CursorPage
  shown : List Row

namespace CursorPage

/-- The query whose rows a walk goes through. -/
def walkQuery (source : EntitySource) (base : SelectQuery) : SelectQuery :=
  { base with orders := ordersWithKey source base.orders, limit := none, offset := none }

/-- Whether a row comes after the one shown last, if there was one. -/
def isAhead (orders : List OrderTerm) : Option Row → Row → Bool
  | none, _ => true
  | some last, row => compareRows orders last row == .lt

/-- The rows ahead of a walk in its order. -/
def ahead (source : EntitySource) (base : SelectQuery) (last : Option Row) (rows : List Row) :
    List Row :=
  ((walkQuery source base).arranged ((walkQuery source base).satisfying rows)).filter
    (isAhead (ordersWithKey source base.orders) last)

/-- The page after the row shown last. -/
def visit (source : EntitySource) (base : SelectQuery) (perPage : Nat) (last : Option Row)
    (rows : List Row) : Visit :=
  let orders := ordersWithKey source base.orders
  let shown := (ahead source base last rows).take perPage
  { shown := shown
    page :=
      { data := shown.map (Row.project base.columns)
        perPage := perPage
        next :=
          if perPage < (ahead source base last rows).length then
            shown.getLast?.map (boundary orders true)
          else none
        previous := if last.isSome then shown.head?.map (boundary orders false) else none } }

/-- A query can be walked through the rows held when its ordering columns order them and the
numbers in these columns are read back from their written form. -/
structure Walkable (source : EntitySource) (base : SelectQuery) (held : List Row) : Prop where
  orderable : ∀ term ∈ ordersWithKey source base.orders, Orderable term.field held
  readable : ∀ term ∈ ordersWithKey source base.orders, ∀ number,
    Json.number number ∈ Row.column term.field held → number.ReadsBack

/-- Calls can go on from the rows held when the ordering columns order them and the token of a
row, in either direction, gives its position back. -/
structure Navigable (source : EntitySource) (base : SelectQuery) (held : List Row) : Prop where
  orderable : ∀ term ∈ ordersWithKey source base.orders, Orderable term.field held
  tokens : ∀ row ∈ held, ∀ forward,
    Cursor.ofToken? (boundary (ordersWithKey source base.orders) forward row) =
      some ⟨Cursor.position (ordersWithKey source base.orders) row, forward⟩

variable {source : EntitySource} {base : SelectQuery} {held rows : List Row} {last : Option Row}
  {perPage : Nat}

theorem Walkable.navigable (h : Walkable source base held) : Navigable source base held where
  orderable := h.orderable
  tokens _ hrow forward := Cursor.of_token_position h.orderable h.readable hrow forward

theorem key_mem_orders (source : EntitySource) (orders : List OrderTerm) :
    ∃ term ∈ ordersWithKey source orders, term.field = source.primaryKey := by
  unfold ordersWithKey
  split
  · rename_i h
    obtain ⟨term, hterm, hfield⟩ := List.any_eq_true.mp h
    exact ⟨term, hterm, beq_iff_eq.mp hfield⟩
  · exact ⟨⟨source.primaryKey, .ascending⟩, by simp, rfl⟩

/-- A row is ahead when it is stored, satisfies the query and comes after the one shown last. -/
theorem mem_ahead {row : Row} : row ∈ ahead source base last rows ↔
    row ∈ rows ∧ Predicate.holdsAll row base.predicates = true ∧
      isAhead (ordersWithKey source base.orders) last row = true := by
  simp [ahead, SelectQuery.satisfying, walkQuery, (SelectQuery.arranged_perm _ _).mem_iff,
    and_assoc]

/-! ## The search of a page -/

theorem like_patterns_branches {equal : List Predicate} (h : Predicate.likePatternsAll equal = [])
    (orders : List OrderTerm) (values : List Json) :
    Predicate.likePatternsAll (Cursor.branches equal orders values) = [] := by
  induction orders generalizing equal values with
  | nil => simp [Cursor.branches, Predicate.likePatternsAll]
  | cons term terms ih =>
      cases values <;>
        simp [Cursor.branches, Predicate.likePatternsAll, Predicate.likePatterns, h, ih]

theorem like_patterns_after (orders : List OrderTerm) (values : List Json) :
    Predicate.likePatterns (Cursor.after orders values) = [] := by
  rw [Cursor.after, Predicate.likePatterns, like_patterns_branches rfl]

/-- The search for the rows of a page fails where the search of the query itself does: coming after
a position is a matter of comparisons. -/
theorem matching_query [Libraries] [LawfulLibraries] (source : EntitySource) (base : SelectQuery)
    (perPage : Nat) (cursor : Option Cursor) (rows : List Row) :
    (query base source perPage cursor).matching rows =
      (base.matching rows).map fun _ => (query base source perPage cursor).satisfying rows := by
  refine SelectQuery.matching_of_more rfl ?_ rows
  cases cursor with
  | none => exact nofun
  | some start =>
      intro pattern hpattern
      rw [Predicate.likePatternsAll, like_patterns_after] at hpattern
      cases hpattern

namespace Navigable

theorem orderable_satisfying (h : Navigable source base held)
    (hrows : ∀ row ∈ rows, row ∈ held) : ∀ term ∈ (walkQuery source base).orders,
      Orderable term.field ((walkQuery source base).satisfying rows) :=
  fun term hterm => (h.orderable term hterm).mono fun row hrow =>
    hrows row (List.mem_filter.mp hrow).1

/-- The rows ahead of a walk come in strictly ascending order. -/
theorem ahead_pairwise (h : Navigable source base held) (hrows : ∀ row ∈ rows, row ∈ held)
    (hkeys : Table.KeysUnequal source.primaryKey rows) (last : Option Row) :
    (ahead source base last rows).Pairwise fun left right =>
      compareRows (ordersWithKey source base.orders) left right = .lt :=
  (SelectQuery.arranged_strictly (h.orderable_satisfying hrows)
    (key_mem_orders source base.orders) (hkeys.filter _)).filter _

theorem query_orders (source : EntitySource) (base : SelectQuery) (perPage : Nat)
    (last : Option Row) : (query base source perPage
      (last.map (Cursor.onward (ordersWithKey source base.orders)))).orders =
        (walkQuery source base).orders := by
  cases last <;> rfl

/-- The rows that a page query finds are those ahead, cut off after one row more than a page. -/
theorem window_query (h : Navigable source base held) (hrows : ∀ row ∈ rows, row ∈ held)
    (hkeys : Table.KeysUnequal source.primaryKey rows) (hlast : ∀ row ∈ last, row ∈ held) :
    let asked := query base source perPage
      (last.map (Cursor.onward (ordersWithKey source base.orders)))
    asked.window (asked.arranged (asked.satisfying rows)) =
      (ahead source base last rows).take (perPage + 1) := by
  intro asked
  have hsatisfying : asked.satisfying rows =
      ((walkQuery source base).satisfying rows).filter
        (isAhead (ordersWithKey source base.orders) last) := by
    cases last with
    | none =>
        simp only [asked, SelectQuery.satisfying, query, walkQuery, Option.map_none,
          List.append_nil]
        exact (List.filter_eq_self.mpr fun _ _ => rfl).symm
    | some start =>
        simp only [SelectQuery.satisfying, walkQuery, List.filter_filter]
        refine List.filter_congr fun row hrow => ?_
        rw [isAhead, ← Cursor.holds_after h.orderable (hlast start rfl) (hrows row hrow)]
        simp [asked, query, isBackward, Cursor.onward, Predicate.holdsAll, Bool.and_comm]
  rw [hsatisfying, SelectQuery.arranged_congr (query_orders source base perPage last),
    SelectQuery.arranged_filter (h.orderable_satisfying hrows) (key_mem_orders source base.orders)
      (hkeys.filter _)]
  simp [asked, SelectQuery.window, query, ahead]

/-- A page query finds the rows ahead, unless the search of the walk fails. -/
theorem select_query [Libraries] [LawfulLibraries] (h : Navigable source base held)
    (hrows : ∀ row ∈ rows, row ∈ held) (hkeys : Table.KeysUnequal source.primaryKey rows)
    (hlast : ∀ row ∈ last, row ∈ held) :
    (query base source perPage
      (last.map (Cursor.onward (ordersWithKey source base.orders)))).select rows =
        (Failure.reporting (base.matching rows)).map fun _ =>
          ((ahead source base last rows).take (perPage + 1)).map (Row.project
            (base.columns ++ extraColumns base.columns (ordersWithKey source base.orders))) := by
  rw [SelectQuery.select_eq_of_trans_cmp (compare_rows_trans_cmp ?_), matching_query,
    h.window_query hrows hkeys hlast]
  · cases base.matching rows <;> rfl
  · rw [query_orders]
    exact fun term hterm => (h.orderable term hterm).mono fun row hrow =>
      hrows row (List.mem_filter.mp hrow).1

end Navigable

/-- The page of the rows found shows the first rows ahead. -/
theorem of_rows_ahead (h : Navigable source base held) :
    ofRows base source perPage (last.map (Cursor.onward (ordersWithKey source base.orders)))
      (((ahead source base last rows).take (perPage + 1)).map (Row.project
        (base.columns ++ extraColumns base.columns (ordersWithKey source base.orders)))) =
      (visit source base perPage last rows).page := by
  have hundotted : ∀ term ∈ ordersWithKey source base.orders,
      Identifier.isDotted term.field = false := fun term hterm => (h.orderable term hterm).undotted
  have hbackward : isBackward (last.map (Cursor.onward (ordersWithKey source base.orders))) =
      false := by
    cases last <;> rfl
  have htake : ((ahead source base last rows).take (perPage + 1)).take perPage =
      (ahead source base last rows).take perPage := by
    rw [List.take_take, Nat.min_eq_left (Nat.le_succ perPage)]
  have hmore : perPage < min (perPage + 1) (ahead source base last rows).length ↔
      perPage < (ahead source base last rows).length := by
    omega
  rw [of_rows_fetched]
  simp [visit, pageRows, hbackward, htake, hmore, record_token_of_undotted hundotted]

theorem perform_decode_cursor {token : String} {cursor : Cursor}
    (h : Cursor.ofToken? token = some cursor) (session : Session) :
    Session.perform session (Session.decodeCursor (some token)) = (.ok (some cursor), session) := by
  simp [Session.decodeCursor, h]

/-- A call whose token is read fetches the rows from there and one row more than a page, and cuts
its page out of what it finds. -/
theorem perform_cursor_paginate_of_decode [Libraries] {session : Session} {token : Option String}
    {cursor : Option Cursor}
    (h : Session.perform session (Session.decodeCursor token) = (.ok cursor, session))
    (hsize : 1 ≤ perPage) (hbound : perPage < 2 ^ 64 - 1) :
    (Session.perform session (Session.cursorPaginate source base perPage token)).1 =
      (session.store.fetch source (query base source perPage cursor)).map
        (ofRows base source perPage cursor) := by
  have hcounted : Failure.unsigned64 (perPage + 1) = .ok (perPage + 1) :=
    Failure.unsigned64_eq_ok_iff.mpr ⟨by omega, rfl⟩
  rw [Session.cursorPaginate, Nat.max_eq_left hsize, Session.perform_bind_ok h,
    Session.perform_lift_bind_ok hcounted, Session.perform_bind, Session.perform_fetch]
  cases session.store.fetch source (query base source perPage cursor) <;> rfl

/-- A call with the token of the row shown last answers with the page after it, unless the search of
the walk fails. -/
theorem perform_cursor_paginate [Libraries] [LawfulLibraries] (h : Navigable source base held)
    (session : Session) (hrows : ∀ row ∈ session.store.rows source.table, row ∈ held)
    (hkeys : Table.KeysUnequal source.primaryKey (session.store.rows source.table))
    (hlast : ∀ row ∈ last, row ∈ held) (hsize : 1 ≤ perPage) (hbound : perPage < 2 ^ 64 - 1) :
    (Session.perform session (Session.cursorPaginate source base perPage
      (last.map (boundary (ordersWithKey source base.orders) true)))).1 =
        (Failure.reporting (base.matching (session.store.rows source.table))).map fun _ =>
          (visit source base perPage last (session.store.rows source.table)).page := by
  have hdecode : Session.perform session (Session.decodeCursor
      (last.map (boundary (ordersWithKey source base.orders) true))) =
        (.ok (last.map (Cursor.onward (ordersWithKey source base.orders))), session) := by
    cases last with
    | none => rfl
    | some start =>
        exact perform_decode_cursor (h.tokens start (hlast start rfl) true) session
  rw [perform_cursor_paginate_of_decode hdecode hsize hbound, Store.fetch,
    h.select_query hrows hkeys hlast, ← of_rows_ahead h]
  cases base.matching (session.store.rows source.table) <;> rfl

end CursorPage

end EntityGate
