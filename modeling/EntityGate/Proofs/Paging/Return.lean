import EntityGate.Proofs.Paging.Walk

/-!
# Going back

The token to go back from a page sorts the rows the other way round and shows those nearest to the
page. On a table that does not change these are the rows of the page before it, and everything
else about that page comes out the same: see `back_shows_page_before`.
-/

namespace EntityGate

/-! ## The order the other way round -/

theorem compare_term_reversed (term : OrderTerm) (left right : Row) :
    compareTerm { term with direction := term.direction.reversed } left right =
      compareTerm term right left := by
  rw [← compare_term_swap]
  unfold compareTerm
  cases term.direction <;> simp [SortDirection.reversed]

/-- Reversed orderings compare two rows as the orderings compare them exchanged. -/
theorem compare_rows_reversed (orders : List OrderTerm) (left right : Row) :
    compareRows (CursorPage.reversedOrders orders) left right = compareRows orders right left := by
  induction orders with
  | nil => rfl
  | cons term terms ih =>
      show compareRows (_ :: CursorPage.reversedOrders terms) left right = _
      rw [compare_rows_cons, compare_rows_cons, compare_term_reversed, ih]

theorem orderable_reversed {orders : List OrderTerm} {rows : List Row}
    (h : ∀ term ∈ orders, Orderable term.field rows) :
    ∀ term ∈ CursorPage.reversedOrders orders, Orderable term.field rows := by
  intro term hterm
  obtain ⟨found, hfound, rfl⟩ := List.mem_map.mp hterm
  exact h found hfound

/-- Sorting by reversed orderings reverses the rows, as no two of them compare equal. -/
theorem SelectQuery.arranged_reversed {query back : SelectQuery} {rows : List Row}
    {keyColumn : String} (h : ∀ term ∈ query.orders, Orderable term.field rows)
    (hkey : ∃ term ∈ query.orders, term.field = keyColumn)
    (hkeys : Table.KeysUnequal keyColumn rows)
    (hback : back.orders = CursorPage.reversedOrders query.orders) :
    back.arranged rows = (query.arranged rows).reverse := by
  have hkeyed : ∃ term ∈ back.orders, term.field = keyColumn := by
    obtain ⟨term, hterm, hfield⟩ := hkey
    rw [hback]
    exact ⟨_, List.mem_map_of_mem hterm, hfield⟩
  have hleft := arranged_strictly (hback ▸ orderable_reversed h) hkeyed hkeys
  have hright : (query.arranged rows).reverse.Pairwise fun left right =>
      compareRows back.orders left right = .lt := by
    rw [List.pairwise_reverse]
    refine (arranged_strictly h hkey hkeys).imp fun {left right} hlt => ?_
    rw [hback, compare_rows_reversed]
    exact hlt
  have hperm : (back.arranged rows).Perm (query.arranged rows).reverse :=
    (arranged_perm back rows).trans
      ((arranged_perm query rows).symm.trans (List.reverse_perm _).symm)
  refine hperm.eq_of_pairwise (fun left right _ _ hlt hgt => ?_) hleft hright
  rw [← compare_rows_swap, hlt] at hgt
  exact absurd hgt (by decide)

/-! ## One call back -/

namespace CursorPage

variable {source : EntitySource} {base : SelectQuery} {perPage : Nat} {held rows : List Row}
  {first : Row}

/-- The cursor that leads back from a row. -/
def backward (orders : List OrderTerm) (row : Row) : Cursor := ⟨Cursor.position orders row, false⟩

/-- All rows of a query in the order of a walk. -/
def listed (source : EntitySource) (base : SelectQuery) (rows : List Row) : List Row :=
  ahead source base none rows

/-- The rows of a query that come before a row, in the order of a walk. -/
def behind (source : EntitySource) (base : SelectQuery) (first : Row) (rows : List Row) :
    List Row :=
  (listed source base rows).filter fun row =>
    compareRows (ordersWithKey source base.orders) row first == .lt

/-- The page before a row. -/
def backPage (source : EntitySource) (base : SelectQuery) (perPage : Nat) (first : Row)
    (rows : List Row) : CursorPage :=
  let orders := ordersWithKey source base.orders
  let shown := ((behind source base first rows).reverse.take perPage).reverse
  { data := shown.map (Row.project base.columns)
    perPage := perPage
    next := shown.getLast?.map (boundary orders true)
    previous :=
      if perPage < (behind source base first rows).length then
        shown.head?.map (boundary orders false)
      else none }

theorem listed_eq_arranged (source : EntitySource) (base : SelectQuery) (rows : List Row) :
    listed source base rows =
      (walkQuery source base).arranged ((walkQuery source base).satisfying rows) :=
  List.filter_eq_self.mpr fun _ _ => rfl

namespace Navigable

theorem listed_pairwise (h : Navigable source base held) (hrows : ∀ row ∈ rows, row ∈ held)
    (hkeys : Table.KeysUnequal source.primaryKey rows) :
    (listed source base rows).Pairwise fun left right =>
      compareRows (ordersWithKey source base.orders) left right = .lt :=
  h.ahead_pairwise hrows hkeys none

/-- The rows that a query back finds are those behind, from the nearest on, cut off after one row
more than a page. -/
theorem window_query_back (h : Navigable source base held) (hrows : ∀ row ∈ rows, row ∈ held)
    (hkeys : Table.KeysUnequal source.primaryKey rows) (hfirst : first ∈ held) :
    let asked := query base source perPage
      (some (backward (ordersWithKey source base.orders) first))
    asked.window (asked.arranged (asked.satisfying rows)) =
      (behind source base first rows).reverse.take (perPage + 1) := by
  intro asked
  let orders := ordersWithKey source base.orders
  let before (row : Row) : Bool := compareRows orders row first == .lt
  have hposition : Cursor.position orders first =
      Cursor.position (reversedOrders orders) first := by
    simp [Cursor.position, reversedOrders, Function.comp_def]
  have hsatisfying : asked.satisfying rows =
      ((walkQuery source base).satisfying rows).filter before := by
    simp only [SelectQuery.satisfying, walkQuery, List.filter_filter]
    refine List.filter_congr fun row hrow => ?_
    have hafter : Predicate.holds row
        (Cursor.after (reversedOrders orders) (Cursor.position orders first)) = before row := by
      rw [hposition, Cursor.holds_after (orderable_reversed h.orderable) hfirst (hrows row hrow),
        compare_rows_reversed]
    rw [← hafter]
    simp [asked, orders, query, isBackward, backward, Predicate.holdsAll, Bool.and_comm]
  have horders : asked.orders = reversedOrders (walkQuery source base).orders := rfl
  have hsatisfied := h.orderable_satisfying hrows
  have hkey := key_mem_orders source base.orders
  -- The rows are filtered before they are sorted; both orders of doing it give the same rows.
  have harranged : asked.arranged (asked.satisfying rows) =
      (behind source base first rows).reverse := by
    rw [hsatisfying, SelectQuery.arranged_reversed
      (fun term hterm => (hsatisfied term hterm).mono fun row hrow => (List.mem_filter.mp hrow).1)
      hkey ((hkeys.filter _).filter _) horders,
      SelectQuery.arranged_filter hsatisfied hkey (hkeys.filter _), behind, listed_eq_arranged]
  rw [harranged]
  simp [asked, SelectQuery.window, query]

/-- A query back finds the rows behind, unless the search of the walk fails. -/
theorem select_query_back [Libraries] [LawfulLibraries] (h : Navigable source base held)
    (hrows : ∀ row ∈ rows, row ∈ held) (hkeys : Table.KeysUnequal source.primaryKey rows)
    (hfirst : first ∈ held) :
    (query base source perPage
      (some (backward (ordersWithKey source base.orders) first))).select rows =
        (Failure.reporting (base.matching rows)).map fun _ =>
          ((behind source base first rows).reverse.take (perPage + 1)).map (Row.project
            (base.columns ++ extraColumns base.columns (ordersWithKey source base.orders))) := by
  have hreversed : ∀ term ∈ reversedOrders (ordersWithKey source base.orders), Orderable term.field
      ((query base source perPage
        (some (backward (ordersWithKey source base.orders) first))).satisfying rows) :=
    orderable_reversed fun term hterm => (h.orderable term hterm).mono fun row hrow =>
      hrows row (List.mem_filter.mp hrow).1
  rw [SelectQuery.select_eq_of_trans_cmp (compare_rows_trans_cmp hreversed), matching_query,
    h.window_query_back hrows hkeys hfirst]
  cases base.matching rows <;> rfl

end Navigable

/-- The page of the rows found is the page before the row. -/
theorem of_rows_back (h : Navigable source base held) :
    ofRows base source perPage (some (backward (ordersWithKey source base.orders) first))
      (((behind source base first rows).reverse.take (perPage + 1)).map (Row.project
        (base.columns ++ extraColumns base.columns (ordersWithKey source base.orders)))) =
      backPage source base perPage first rows := by
  have hundotted : ∀ term ∈ ordersWithKey source base.orders,
      Identifier.isDotted term.field = false := fun term hterm => (h.orderable term hterm).undotted
  have hbackward : isBackward (some (backward (ordersWithKey source base.orders) first)) =
      true := rfl
  have htake : ((behind source base first rows).reverse.take (perPage + 1)).take perPage =
      (behind source base first rows).reverse.take perPage := by
    rw [List.take_take, Nat.min_eq_left (Nat.le_succ perPage)]
  have hmore : perPage < min (perPage + 1) (behind source base first rows).length ↔
      perPage < (behind source base first rows).length := by
    omega
  rw [of_rows_fetched]
  simp only [backPage, pageRows, hbackward, htake, List.length_take, List.length_reverse, hmore,
    record_token_of_undotted hundotted, Bool.true_or, Bool.not_true, Bool.and_false,
    Bool.false_or, Bool.true_and, if_true, decide_eq_true_eq]

/-- A call with the token to go back from a row answers with the page before it, unless the search
of the walk fails. -/
theorem perform_cursor_paginate_back [Libraries] [LawfulLibraries]
    (h : Navigable source base held) (session : Session)
    (hrows : ∀ row ∈ session.store.rows source.table, row ∈ held)
    (hkeys : Table.KeysUnequal source.primaryKey (session.store.rows source.table))
    (hfirst : first ∈ held) (hsize : 1 ≤ perPage) (hbound : perPage < 2 ^ 64 - 1) :
    (Session.perform session (Session.cursorPaginate source base perPage
      (some (boundary (ordersWithKey source base.orders) false first)))).1 =
        (Failure.reporting (base.matching (session.store.rows source.table))).map fun _ =>
          backPage source base perPage first (session.store.rows source.table) := by
  have hdecode := perform_decode_cursor (h.tokens first hfirst false) session
  rw [perform_cursor_paginate_of_decode hdecode hsize hbound, Store.fetch, ← of_rows_back h]
  show Except.map _ ((query base source perPage
    (some (backward (ordersWithKey source base.orders) first))).select _) = _
  rw [h.select_query_back hrows hkeys hfirst]
  cases base.matching (session.store.rows source.table) <;> rfl

/-! ## Pages by their place -/

/-- The rows before the row at a place are those at the places before it. -/
theorem behind_eq_take (h : Navigable source base held) (hrows : ∀ row ∈ rows, row ∈ held)
    (hkeys : Table.KeysUnequal source.primaryKey rows) {place : Nat}
    (hplace : (listed source base rows)[place]? = some first) :
    behind source base first rows = (listed source base rows).take place := by
  obtain ⟨hlt, hget⟩ := List.getElem?_eq_some_iff.mp hplace
  have hsplit : listed source base rows = (listed source base rows).take place ++
      first :: (listed source base rows).drop (place + 1) := by
    rw [← hget, ← List.drop_eq_getElem_cons hlt, List.take_append_drop]
  have hascending := h.listed_pairwise hrows hkeys
  rw [hsplit] at hascending
  obtain ⟨-, hafter, hbefore⟩ := List.pairwise_append.mp hascending
  have hkept : ((listed source base rows).take place).filter (fun row =>
      compareRows (ordersWithKey source base.orders) row first == .lt) =
        (listed source base rows).take place :=
    List.filter_eq_self.mpr fun row hrow =>
      beq_iff_eq.mpr (hbefore row hrow first List.mem_cons_self)
  have hdropped : (first :: (listed source base rows).drop (place + 1)).filter (fun row =>
      compareRows (ordersWithKey source base.orders) row first == .lt) = [] := by
    refine List.filter_eq_nil_iff.mpr fun row hrow hlt => ?_
    have hcompare := beq_iff_eq.mp hlt
    rcases List.mem_cons.mp hrow with rfl | hrow
    · exact compare_rows_self_ne_lt _ _ hcompare
    · rw [← compare_rows_swap, List.rel_of_pairwise_cons hafter hrow] at hcompare
      exact absurd hcompare (by decide)
  calc behind source base first rows
      = ((listed source base rows).take place ++
          first :: (listed source base rows).drop (place + 1)).filter (fun row =>
            compareRows (ordersWithKey source base.orders) row first == .lt) :=
        congrArg (List.filter _) hsplit
    _ = (listed source base rows).take place := by
        rw [List.filter_append, hkept, hdropped, List.append_nil]

/-- A walk over unchanged rows that has shown some of them: it stands behind the last one shown,
if there was one, and the others are ahead of it. -/
structure Shown (source : EntitySource) (base : SelectQuery) (rows : List Row) (last : Option Row)
    (count : Nat) : Prop where
  ahead_eq : ahead source base last rows = (listed source base rows).drop count
  started : last.isSome = true ↔ 0 < count
  last_mem : ∀ row ∈ last, row ∈ rows

variable {last : Option Row} {count : Nat}

theorem shown_start (source : EntitySource) (base : SelectQuery) (rows : List Row) :
    Shown source base rows none 0 :=
  ⟨rfl, by simp, by simp⟩

/-- After a page that is not the last one the walk has shown a page more. -/
theorem Shown.step (hshown : Shown source base rows last count) (h : Navigable source base held)
    (hrows : ∀ row ∈ rows, row ∈ held) (hkeys : Table.KeysUnequal source.primaryKey rows)
    (hsize : 1 ≤ perPage) {start : Row}
    (hstart : (visit source base perPage last rows).shown.getLast? = some start) :
    Shown source base rows (some start) (count + perPage) where
  ahead_eq := by
    rw [ahead_drop h hrows hkeys (fun row hrow => hrows row (hshown.last_mem row hrow)) hstart,
      hshown.ahead_eq, List.drop_drop]
  started := by
    simp only [Option.isSome_some, true_iff]
    omega
  last_mem row hrow := by
    obtain rfl := Option.mem_some.mp hrow
    exact (mem_ahead.mp (List.mem_of_mem_take (List.mem_of_getLast? hstart))).1

/-- The page before the first row that a page leaves out is that page again. -/
theorem back_page_eq_visit (h : Navigable source base held) (hrows : ∀ row ∈ rows, row ∈ held)
    (hkeys : Table.KeysUnequal source.primaryKey rows)
    (hshown : Shown source base rows last count)
    (hfirst : (ahead source base last rows)[perPage]? = some first) :
    backPage source base perPage first rows = (visit source base perPage last rows).page := by
  have hmore : perPage < (ahead source base last rows).length :=
    (List.getElem?_eq_some_iff.mp hfirst).1
  have hlength : count + perPage < (listed source base rows).length := by
    rw [hshown.ahead_eq, List.length_drop] at hmore
    omega
  have hbehind : behind source base first rows =
      (listed source base rows).take (count + perPage) := by
    refine behind_eq_take h hrows hkeys ?_
    rw [hshown.ahead_eq, List.getElem?_drop] at hfirst
    exact hfirst
  have hbefore : (behind source base first rows).length = count + perPage := by
    rw [hbehind, List.length_take]
    omega
  have hsame : ((behind source base first rows).reverse.take perPage).reverse =
      (ahead source base last rows).take perPage := by
    rw [List.take_reverse, List.reverse_reverse, hbefore, Nat.add_sub_cancel, hbehind,
      hshown.ahead_eq, List.drop_take, Nat.add_sub_cancel_left]
  have hstarted : perPage < count + perPage ↔ last.isSome = true := by
    rw [hshown.started]
    omega
  simp only [backPage, visit, hsame, hbefore, hstarted, if_pos hmore]

/-- The first row that a page leaves out is the first one of the page behind it. -/
theorem head_of_following (h : Navigable source base held) (hrows : ∀ row ∈ rows, row ∈ held)
    (hkeys : Table.KeysUnequal source.primaryKey rows) (hlast : ∀ row ∈ last, row ∈ held)
    (hsize : 1 ≤ perPage) {start : Row}
    (hstart : (visit source base perPage last rows).shown.getLast? = some start)
    (hfirst : (ahead source base last rows)[perPage]? = some first) :
    (visit source base perPage (some start) rows).shown.head? = some first := by
  show ((ahead source base (some start) rows).take perPage).head? = _
  rw [ahead_drop h hrows hkeys hlast hstart, List.head?_take, if_neg (by omega), List.head?_drop,
    hfirst]

/-- A page with rows has no token to go back when the walk starts with it. -/
theorem previous_eq_none_iff {start : Row}
    (hstart : (visit source base perPage last rows).shown.getLast? = some start) :
    (visit source base perPage last rows).page.previous = none ↔ last = none := by
  show (if last.isSome = true then (visit source base perPage last rows).shown.head?.map _
    else none) = none ↔ _
  cases last with
  | none => simp
  | some row =>
      have hshown : (visit source base perPage (some row) rows).shown ≠ [] := by
        intro hnil
        simp [hnil] at hstart
      simpa using hshown

/-- The moments of a walk over a table that does not change. -/
theorem moments_replicate {store : Store} (hrows : ∀ row ∈ store.rows source.table, row ∈ held)
    (hkeys : Table.KeysUnequal source.primaryKey (store.rows source.table)) (calls : Nat) :
    Moments source held (List.replicate calls store) where
  rows other hother := by
    rw [List.eq_of_mem_replicate hother]
    exact hrows
  keys other hother := by
    rw [List.eq_of_mem_replicate hother]
    exact hkeys

/-- A walk of several pages over a table that does not change has a search that does not fail. -/
theorem walk_replicate [Libraries] [LawfulLibraries] {store : Store}
    (h : Navigable source base held) (hrows : ∀ row ∈ store.rows source.table, row ∈ held)
    (hkeys : Table.KeysUnequal source.primaryKey (store.rows source.table)) (hsize : 1 ≤ perPage)
    (hbound : perPage < 2 ^ 64 - 1) {calls : Nat}
    (hpages : 1 < (walk source base perPage none (List.replicate calls store)).length) :
    (∃ found, base.matching (store.rows source.table) = .ok found) ∧
      walk source base perPage none (List.replicate calls store) =
        (visits source base perPage none (List.replicate calls store)).map
          fun visit => .ok visit.page := by
  have hmoments := moments_replicate hrows hkeys calls
  have hsearch : ∃ found, base.matching (store.rows source.table) = .ok found := by
    cases calls with
    | zero => simp [walk] at hpages
    | succ calls =>
        refine exists_matching_of_walk h hmoments hsize hbound fun failure hwalk => ?_
        rw [List.replicate_succ, hwalk] at hpages
        exact Nat.lt_irrefl 1 hpages
  have hlast (row : Row) (hrow : row ∈ (none : Option Row)) : row ∈ held :=
    (Option.not_mem_none row hrow).elim
  refine ⟨hsearch, (walk_cases h hmoments hlast hsize hbound).resolve_right ?_⟩
  rintro ⟨⟨other, hother, error, herror⟩, -⟩
  obtain ⟨found, hfound⟩ := hsearch
  rw [List.eq_of_mem_replicate hother, hfound] at herror
  cases herror

/-- Two pages that follow one another in a walk over an unchanged table: the second one shows
what comes after the first one. -/
theorem visits_adjacent {store : Store} (h : Navigable source base held)
    (hrows : ∀ row ∈ store.rows source.table, row ∈ held)
    (hkeys : Table.KeysUnequal source.primaryKey (store.rows source.table))
    (hsize : 1 ≤ perPage) (hshown : Shown source base (store.rows source.table) last count)
    {calls : Nat} {before after : List Visit} {current following : Visit}
    (hvisits : visits source base perPage last (List.replicate calls store) =
      before ++ current :: following :: after) :
    ∃ place start,
      Shown source base (store.rows source.table) place (count + before.length * perPage) ∧
      perPage < (ahead source base place (store.rows source.table)).length ∧
      current = visit source base perPage place (store.rows source.table) ∧
      current.shown.getLast? = some start ∧
      following = visit source base perPage (some start) (store.rows source.table) := by
  induction calls generalizing last count before with
  | zero => simp [visits] at hvisits
  | succ calls ih =>
      rw [List.replicate_succ, visits] at hvisits
      -- The walk goes on after this page only if there is more ahead.
      by_cases hmore : perPage < (ahead source base last (store.rows source.table)).length
      · obtain ⟨start, hstart, -⟩ := exists_last_of_more hsize hrows hmore
        rw [if_pos hmore, hstart] at hvisits
        cases before with
        | nil =>
            obtain ⟨rfl, hrest⟩ := List.cons.inj hvisits
            refine ⟨last, start, by simpa using hshown, hmore, rfl, hstart, ?_⟩
            cases calls with
            | zero => simp [visits] at hrest
            | succ calls =>
                rw [List.replicate_succ, visits] at hrest
                exact (List.cons.inj hrest).1.symm
        | cons earlier before =>
            obtain ⟨-, hrest⟩ := List.cons.inj hvisits
            have hfound := ih (hshown.step h hrows hkeys hsize hstart) hrest
            rwa [List.length_cons, Nat.succ_mul, Nat.add_comm (before.length * perPage),
              ← Nat.add_assoc]
      · rw [if_neg hmore] at hvisits
        cases before <;> simp at hvisits

end CursorPage

/-! ## Back to the page before -/

/-- On a table that does not change, the token to go back from a page of a forward walk, other
than the first one, leads to the page before it: the same rows in the same order with the same
tokens. A page behind another one always has rows and a token to go back, and only the first page
has none. -/
theorem back_shows_page_before [Libraries] [LawfulLibraries] (source : EntitySource)
    (base : SelectQuery) (perPage : Nat) (session : Session) (hsize : 1 ≤ perPage)
    (hbound : perPage < 2 ^ 64 - 1)
    (hnavigable : CursorPage.Navigable source base (session.store.rows source.table))
    (hkeys : Table.KeysUnequal source.primaryKey (session.store.rows source.table))
    (calls : Nat) (before after : List (Except Failure CursorPage))
    (page following : CursorPage)
    (hwalk : walk source base perPage none (List.replicate calls session.store) =
      before ++ .ok page :: .ok following :: after) :
    following.data ≠ [] ∧ (page.previous = none ↔ before = []) ∧
      ∃ token, following.previous = some token ∧
        (Session.perform session (Session.cursorPaginate source base perPage (some token))).1 =
          .ok page := by
  have hrows : ∀ row ∈ session.store.rows source.table,
      row ∈ session.store.rows source.table := fun _ hrow => hrow
  have hseveral :
      1 < (walk source base perPage none (List.replicate calls session.store)).length := by
    rw [hwalk, List.length_append, List.length_cons, List.length_cons]
    omega
  obtain ⟨⟨found, hfound⟩, hvisits⟩ := CursorPage.walk_replicate hnavigable hrows hkeys hsize hbound
    hseveral
  rw [hwalk] at hvisits
  obtain ⟨earlier, rest, hsplit, rfl, hrest⟩ := List.map_eq_append_iff.mp hvisits.symm
  obtain ⟨current, rest, rfl, hcurrent, hrest⟩ := List.map_eq_cons_iff.mp hrest
  obtain ⟨next, rest, rfl, hnext, -⟩ := List.map_eq_cons_iff.mp hrest
  obtain ⟨place, start, hshown, hmore, rfl, hstart, rfl⟩ := CursorPage.visits_adjacent hnavigable
    hrows hkeys hsize (CursorPage.shown_start source base _) hsplit
  obtain rfl := Except.ok.inj hcurrent
  obtain rfl := Except.ok.inj hnext
  obtain ⟨first, hfirst⟩ : ∃ first, (CursorPage.ahead source base place
      (session.store.rows source.table))[perPage]? = some first :=
    ⟨_, List.getElem?_eq_getElem hmore⟩
  have hheld := (CursorPage.mem_ahead.mp (List.mem_of_getElem? hfirst)).1
  have hhead := CursorPage.head_of_following hnavigable hrows hkeys hshown.last_mem hsize hstart
    hfirst
  refine ⟨?_, ?_, CursorPage.boundary (CursorPage.ordersWithKey source base.orders) false first,
    ?_, ?_⟩
  · show List.map (Row.project base.columns) (CursorPage.visit source base perPage (some start)
      (session.store.rows source.table)).shown ≠ []
    rw [ne_eq, List.map_eq_nil_iff]
    intro hnil
    rw [hnil] at hhead
    exact absurd hhead (by simp)
  · rw [CursorPage.previous_eq_none_iff hstart, ← Option.not_isSome_iff_eq_none, hshown.started,
      Nat.zero_add, Nat.not_lt, Nat.le_zero, Nat.mul_eq_zero, List.length_eq_zero_iff,
      List.map_eq_nil_iff]
    exact or_iff_left (Nat.ne_of_gt hsize)
  · show ((CursorPage.visit source base perPage (some start)
      (session.store.rows source.table)).shown.head?.map _) = _
    rw [hhead]
    rfl
  · rw [CursorPage.perform_cursor_paginate_back hnavigable session hrows hkeys hheld hsize hbound,
      hfound, CursorPage.back_page_eq_visit hnavigable hrows hkeys hshown hfirst]
    rfl

/-- Five posts, two of the highest rank and two of the next one. -/
def rankedPosts : List Row :=
  [rankedPost 3 (Json.ofInt 4), rankedPost 1 (Json.ofInt 4), rankedPost 2 (Json.ofInt 9),
    rankedPost 5 (Json.ofInt 1), rankedPost 4 (Json.ofInt 9)]

theorem ranked_posts_navigable : CursorPage.Navigable postSource byRank rankedPosts := by
  have hfield : ∀ term ∈ CursorPage.ordersWithKey postSource byRank.orders,
      term.field = "rank" ∨ term.field = "id" := by decide +kernel
  have hranks : Row.column "rank" rankedPosts = [4, 4, 9, 1, 9].map Json.ofInt := rfl
  have hids : Row.column "id" rankedPosts = [3, 1, 2, 5, 4].map Json.ofInt := rfl
  refine CursorPage.Walkable.navigable ⟨by decide +kernel, fun term hterm => ?_⟩
  rcases hfield term hterm with hterm | hterm <;> rw [hterm]
  · exact hranks ▸ readable_of_ints (by decide)
  · exact hids ▸ readable_of_ints (by decide)

open scoped Bundled in
/-- Of three pages of ranked posts, the last one leads back to the second one. -/
theorem back_shows_second_page :
    ∃ first second third token,
      walk postSource byRank 2 none (List.replicate 3 (postStore rankedPosts)) =
        [.ok first, .ok second, .ok third] ∧
      third.previous = some token ∧ second.previous ≠ none ∧
      (Session.perform { store := postStore rankedPosts }
        (Session.cursorPaginate postSource byRank 2 (some token))).1 = .ok second := by
  let session : Session := { store := postStore rankedPosts }
  have hrows : ∀ row ∈ session.store.rows postSource.table, row ∈ rankedPosts := fun _ hrow => hrow
  have hkeys : Table.KeysUnequal postSource.primaryKey (session.store.rows postSource.table) := by
    unfold Table.KeysUnequal
    decide +kernel
  have hlength : (CursorPage.listed postSource byRank
      (session.store.rows postSource.table)).length = 5 := by
    rw [CursorPage.listed_eq_arranged, (SelectQuery.arranged_perm _ _).length_eq]
    rfl
  have hmore {last : Option Row} {count : Nat} (hshown : CursorPage.Shown postSource byRank
      (session.store.rows postSource.table) last count) : 2 < (CursorPage.ahead postSource byRank
        last (session.store.rows postSource.table)).length ↔ 2 < 5 - count := by
    rw [hshown.ahead_eq, List.length_drop, hlength]
  have hfirst := CursorPage.shown_start postSource byRank (session.store.rows postSource.table)
  have hfull := (hmore hfirst).mpr (by decide)
  obtain ⟨start, hstart, -⟩ := CursorPage.exists_last_of_more (by decide) hrows hfull
  have hsecond := hfirst.step ranked_posts_navigable hrows hkeys (by decide) hstart
  have hfull' := (hmore hsecond).mpr (by decide)
  obtain ⟨next, hnext, -⟩ := CursorPage.exists_last_of_more (by decide) hrows hfull'
  have hthird := hsecond.step ranked_posts_navigable hrows hkeys (by decide) hnext
  have hrest := mt (hmore hthird).mp (by decide)
  have hlast : ∀ row ∈ (none : Option Row), row ∈ rankedPosts := nofun
  have hmoments := CursorPage.moments_replicate hrows hkeys 3
  have hwalk : walk postSource byRank 2 none (List.replicate 3 session.store) = _ :=
    CursorPage.walk_of_compile ranked_posts_navigable nofun hmoments hlast (by decide) (by decide)
  rw [List.replicate_succ, List.replicate_succ, List.replicate_succ, CursorPage.visits,
    CursorPage.visits, CursorPage.visits, if_pos hfull, hstart, if_pos hfull', hnext,
    if_neg hrest] at hwalk
  obtain ⟨-, hnone, token, htoken, hback⟩ := back_shows_page_before postSource byRank 2 session
    (by decide) (by decide) ranked_posts_navigable hkeys 3 [_] [] _ _ hwalk
  exact ⟨_, _, _, token, hwalk, htoken, fun hnil => List.cons_ne_nil _ _ (hnone.mp hnil), hback⟩

end EntityGate
