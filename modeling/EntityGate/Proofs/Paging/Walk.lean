import EntityGate.Proofs.Library.Bundled
import EntityGate.Proofs.Paging.Visit

/-!
# Forward walks

A client asks for a first page and then for the page after each token it is given, until a page
has none. Between two calls the store may change in any way. The pages of such a walk show rows in
strictly ascending order, and a row that stays is shown exactly once: see `walk_shows_each_row`.
Nothing but a like pattern that cannot be compiled makes a call fail.
-/

namespace EntityGate

/-- The answers to a client that goes on from a token as long as it is given one, over the stores
that its calls meet. -/
def walk [Libraries] (source : EntitySource) (base : SelectQuery) (perPage : Nat) :
    Option String → List Store → List (Except Failure CursorPage)
  | _, [] => []
  | token, store :: stores =>
    let answer := (Session.perform { store := store }
      (Session.cursorPaginate source base perPage token)).1
    answer :: match answer with
      | .ok page =>
        match page.next with
        | some next => walk source base perPage (some next) stores
        | none => []
      | .error _ => []

/-- The rows held by the table at some moment. -/
def heldRows (source : EntitySource) (stores : List Store) : List Row :=
  stores.flatMap fun store => store.rows source.table

/-- The last of the pages has no token to go on from. -/
def Finished (visits : List Visit) : Prop :=
  ∃ visit, visits.getLast? = some visit ∧ visit.page.next = none

theorem Finished.tail {visit : Visit} {rest : List Visit} (h : Finished (visit :: rest))
    (hnext : visit.page.next ≠ none) : Finished rest := by
  obtain ⟨final, hfinal, hnone⟩ := h
  cases rest with
  | nil =>
      obtain rfl : visit = final := by simpa using hfinal
      exact absurd hnone hnext
  | cons other others => exact ⟨final, by simpa using hfinal, hnone⟩

theorem Finished.cons (visit : Visit) {rest : List Visit} (h : Finished rest) :
    Finished (visit :: rest) := by
  obtain ⟨final, hfinal, hnone⟩ := h
  exact ⟨final, by simp [List.getLast?_cons, hfinal], hnone⟩

/-- The row is one of the rows, at one place only. -/
def OccursOnce (row : Row) (rows : List Row) : Prop :=
  ∃ before after, rows = before ++ row :: after ∧ row ∉ before ∧ row ∉ after

namespace CursorPage

variable {source : EntitySource} {base : SelectQuery} {perPage : Nat} {held : List Row}
  {last : Option Row} {store : Store} {stores : List Store}

/-- The pages of a walk that goes on from a row. -/
def visits (source : EntitySource) (base : SelectQuery) (perPage : Nat) :
    Option Row → List Store → List Visit
  | _, [] => []
  | last, store :: stores =>
    let current := visit source base perPage last (store.rows source.table)
    current ::
      if perPage < (ahead source base last (store.rows source.table)).length then
        visits source base perPage current.shown.getLast? stores
      else []

/-- What a walk relies on at the moments of its calls. -/
structure Moments (source : EntitySource) (held : List Row) (stores : List Store) : Prop where
  rows : ∀ store ∈ stores, ∀ row ∈ store.rows source.table, row ∈ held
  keys : ∀ store ∈ stores, Table.KeysUnequal source.primaryKey (store.rows source.table)

theorem Moments.tail (h : Moments source held (store :: stores)) : Moments source held stores where
  rows other hother := h.rows other (List.mem_cons_of_mem _ hother)
  keys other hother := h.keys other (List.mem_cons_of_mem _ hother)

/-! ## One step of a walk -/

theorem mem_held_of_mem_shown (hrows : ∀ row ∈ store.rows source.table, row ∈ held) {row : Row}
    (h : row ∈ (visit source base perPage last (store.rows source.table)).shown) : row ∈ held :=
  hrows row (mem_ahead.mp (List.mem_of_mem_take h)).1

/-- A page that is not the last one shows a row. -/
theorem exists_last_of_more (hsize : 1 ≤ perPage)
    (hrows : ∀ row ∈ store.rows source.table, row ∈ held)
    (hmore : perPage < (ahead source base last (store.rows source.table)).length) :
    ∃ start, (visit source base perPage last (store.rows source.table)).shown.getLast? =
      some start ∧ ∀ row ∈ some start, row ∈ held := by
  have hlast : (visit source base perPage last
      (store.rows source.table)).shown.getLast?.isSome := by
    refine List.getLast?_isSome.mpr fun hnil => ?_
    have hlength := congrArg List.length hnil
    simp only [visit, List.length_take, List.length_nil] at hlength
    omega
  obtain ⟨start, hstart⟩ := Option.isSome_iff_exists.mp hlast
  refine ⟨start, hstart, fun row hrow => ?_⟩
  obtain rfl := Option.mem_some.mp hrow
  exact mem_held_of_mem_shown hrows (List.mem_of_getLast? hstart)

theorem next_of_more {rows : List Row} {start : Row}
    (hmore : perPage < (ahead source base last rows).length)
    (hstart : (visit source base perPage last rows).shown.getLast? = some start) :
    (visit source base perPage last rows).page.next =
      some (boundary (ordersWithKey source base.orders) true start) := by
  show (if _ then (visit source base perPage last rows).shown.getLast?.map _ else none) = _
  rw [if_pos hmore, hstart, Option.map_some]

theorem next_of_not_more {rows : List Row}
    (hmore : ¬perPage < (ahead source base last rows).length) :
    (visit source base perPage last rows).page.next = none :=
  if_neg hmore

/-- The rows of a page end with the one shown last. -/
theorem eq_or_lt_last {rows : List Row} {orders : List OrderTerm} {start row : Row}
    (h : rows.Pairwise fun left right => compareRows orders left right = .lt)
    (hstart : rows.getLast? = some start) (hrow : row ∈ rows) :
    row = start ∨ compareRows orders row start = .lt := by
  obtain ⟨before, rfl⟩ := List.getLast?_eq_some_iff.mp hstart
  rcases List.mem_append.mp hrow with hbefore | hlast
  · exact .inr ((List.pairwise_append.mp h).2.2 row hbefore start (by simp))
  · exact .inl (by simpa using hlast)

/-- What comes after the row shown last comes after all rows shown. -/
theorem lt_of_is_ahead (h : Navigable source base held)
    {rows : List Row} (hrows : ∀ row ∈ rows, row ∈ held)
    (hascending : rows.Pairwise fun left right =>
      compareRows (ordersWithKey source base.orders) left right = .lt)
    {start left right : Row} (hstart : rows.getLast? = some start) (hleft : left ∈ rows)
    (hright : right ∈ held)
    (hahead : isAhead (ordersWithKey source base.orders) (some start) right = true) :
    compareRows (ordersWithKey source base.orders) left right = .lt := by
  have hlt := beq_iff_eq.mp hahead
  rcases eq_or_lt_last hascending hstart hleft with rfl | hbefore
  · exact hlt
  · exact compare_rows_lt_trans h.orderable (hrows left hleft)
      (hrows start (List.mem_of_getLast? hstart)) hright hbefore hlt

/-- A step goes on: what comes after the row shown last came after the one shown before it. -/
theorem is_ahead_of_step (h : Navigable source base held) (hlast : ∀ row ∈ last, row ∈ held)
    {start row : Row} (hstart : start ∈ held) (hrow : row ∈ held)
    (hstep : isAhead (ordersWithKey source base.orders) last start = true)
    (hahead : isAhead (ordersWithKey source base.orders) (some start) row = true) :
    isAhead (ordersWithKey source base.orders) last row = true := by
  cases last with
  | none => rfl
  | some first =>
      exact beq_iff_eq.mpr (compare_rows_lt_trans h.orderable (hlast first rfl) hstart hrow
        (beq_iff_eq.mp hstep) (beq_iff_eq.mp hahead))

/-! ## The whole walk -/

/-- The answers of a walk are the pages of its visits, unless the search of a call fails and with it
the call. -/
theorem walk_cases [Libraries] [LawfulLibraries] (h : Navigable source base held)
    (hmoments : Moments source held stores) (hlast : ∀ row ∈ last, row ∈ held)
    (hsize : 1 ≤ perPage) (hbound : perPage < 2 ^ 64 - 1) :
    let answers := walk source base perPage
      (last.map (boundary (ordersWithKey source base.orders) true)) stores
    answers = (visits source base perPage last stores).map (fun visit => .ok visit.page) ∨
      (∃ store ∈ stores, ∃ error, base.matching (store.rows source.table) = .error error) ∧
        ∃ failure, .error failure ∈ answers := by
  induction stores generalizing last with
  | nil => exact .inl rfl
  | cons store stores ih =>
      have hrows := hmoments.rows store List.mem_cons_self
      have hanswer := perform_cursor_paginate h { store := store } hrows
        (hmoments.keys store List.mem_cons_self) hlast hsize hbound
      rw [walk, hanswer]
      cases hsearch : base.matching (store.rows source.table) with
      | error error =>
          exact .inr ⟨⟨store, List.mem_cons_self, error, hsearch⟩, _, List.mem_cons_self⟩
      | ok found =>
          simp only [Failure.reporting, Except.map]
          by_cases hmore : perPage < (ahead source base last (store.rows source.table)).length
          · obtain ⟨start, hstart, hheld⟩ := exists_last_of_more hsize hrows hmore
            simp only [next_of_more hmore hstart, visits, if_pos hmore, hstart]
            rcases ih hmoments.tail hheld with heq | ⟨⟨other, hother, hfails⟩, failure, hfailure⟩
            · exact .inl (congrArg (List.cons _) heq)
            · exact .inr ⟨⟨other, List.mem_cons_of_mem _ hother, hfails⟩, failure,
                List.mem_cons_of_mem _ hfailure⟩
          · left
            simp only [next_of_not_more hmore, visits, if_neg hmore, List.map_cons, List.map_nil]

/-- With like patterns that can be compiled no call of a walk fails. -/
theorem walk_of_compile [Libraries] [LawfulLibraries] (h : Navigable source base held)
    (hcompile : Predicate.Compile base.predicates) (hmoments : Moments source held stores)
    (hlast : ∀ row ∈ last, row ∈ held) (hsize : 1 ≤ perPage) (hbound : perPage < 2 ^ 64 - 1) :
    walk source base perPage (last.map (boundary (ordersWithKey source base.orders) true)) stores =
      (visits source base perPage last stores).map fun visit => .ok visit.page := by
  rcases walk_cases h hmoments hlast hsize hbound with heq | ⟨⟨store, -, error, herror⟩, -⟩
  · exact heq
  · rw [SelectQuery.matching_of_compile hcompile] at herror
    cases herror

/-- A walk none of whose calls fails consists of the pages of its visits. -/
theorem walk_of_answers [Libraries] [LawfulLibraries] (h : Navigable source base held)
    (hmoments : Moments source held stores) (hlast : ∀ row ∈ last, row ∈ held)
    (hsize : 1 ≤ perPage) (hbound : perPage < 2 ^ 64 - 1)
    (hanswers : ∀ failure, .error failure ∉
      walk source base perPage
        (last.map (boundary (ordersWithKey source base.orders) true)) stores) :
    walk source base perPage (last.map (boundary (ordersWithKey source base.orders) true)) stores =
      (visits source base perPage last stores).map fun visit => .ok visit.page :=
  (walk_cases h hmoments hlast hsize hbound).resolve_right
    fun ⟨_, failure, hfailure⟩ => hanswers failure hfailure

/-- The search of a first call fails only if the walk is nothing but that failure. -/
theorem exists_matching_of_walk [Libraries] [LawfulLibraries] (h : Navigable source base held)
    (hmoments : Moments source held (store :: stores)) (hsize : 1 ≤ perPage)
    (hbound : perPage < 2 ^ 64 - 1)
    (hwalk : ∀ failure, walk source base perPage none (store :: stores) ≠ [.error failure]) :
    ∃ found, base.matching (store.rows source.table) = .ok found := by
  have hlast : ∀ row ∈ (none : Option Row), row ∈ held := nofun
  have hanswer := perform_cursor_paginate h { store := store }
    (hmoments.rows store List.mem_cons_self) (hmoments.keys store List.mem_cons_self) hlast hsize
    hbound
  rw [Option.map_none] at hanswer
  cases hsearch : base.matching (store.rows source.table) with
  | error error =>
      rw [hsearch] at hanswer
      refine absurd ?_ (hwalk (.reported error))
      rw [walk, hanswer]
      rfl
  | ok found => exact ⟨found, rfl⟩

/-- The rows shown by a walk come after the one it started from, in strictly ascending order. -/
theorem shown_ascending (h : Walkable source base held) (hmoments : Moments source held stores)
    (hlast : ∀ row ∈ last, row ∈ held) (hsize : 1 ≤ perPage) :
    (((visits source base perPage last stores).flatMap Visit.shown).Pairwise fun left right =>
      compareRows (ordersWithKey source base.orders) left right = .lt) ∧
    ∀ row ∈ (visits source base perPage last stores).flatMap Visit.shown,
      row ∈ held ∧ isAhead (ordersWithKey source base.orders) last row = true := by
  induction stores generalizing last with
  | nil => simp [visits]
  | cons store stores ih =>
      have hrows := hmoments.rows store List.mem_cons_self
      have hascending : ((ahead source base last (store.rows source.table)).take perPage).Pairwise
          fun left right => compareRows (ordersWithKey source base.orders) left right = .lt :=
        (h.navigable.ahead_pairwise hrows (hmoments.keys store List.mem_cons_self) last).take
      have hshown : ∀ row ∈ (visit source base perPage last (store.rows source.table)).shown,
          row ∈ held ∧ isAhead (ordersWithKey source base.orders) last row = true :=
        fun row hrow => ⟨mem_held_of_mem_shown hrows hrow,
          (mem_ahead.mp (List.mem_of_mem_take hrow)).2.2⟩
      rw [visits, List.flatMap_cons]
      split
      · rename_i hmore
        obtain ⟨start, hstart, hheld⟩ := exists_last_of_more hsize hrows hmore
        rw [hstart]
        obtain ⟨hrest, hafter⟩ := ih hmoments.tail hheld
        refine ⟨List.pairwise_append.mpr ⟨hascending, hrest, ?_⟩, ?_⟩
        · intro left hleft right hright
          exact lt_of_is_ahead h.navigable (fun row hrow => (hshown row hrow).1) hascending
            hstart hleft
            (hafter right hright).1 (hafter right hright).2
        · intro row hrow
          rcases List.mem_append.mp hrow with hcurrent | hlater
          · exact hshown row hcurrent
          · exact ⟨(hafter row hlater).1, is_ahead_of_step h.navigable hlast (hheld start rfl)
              (hafter row hlater).1 (hshown start (List.mem_of_getLast? hstart)).2
              (hafter row hlater).2⟩
      · simpa using ⟨hascending, hshown⟩

/-- A finished walk has shown every row that stayed, satisfies the query and was ahead of it. -/
theorem mem_shown (h : Walkable source base held) (hmoments : Moments source held stores)
    (hsize : 1 ≤ perPage) (hfinished : Finished (visits source base perPage last stores))
    {row : Row} (hstays : ∀ store ∈ stores, row ∈ store.rows source.table)
    (hholds : Predicate.holdsAll row base.predicates = true)
    (hahead : isAhead (ordersWithKey source base.orders) last row = true) :
    row ∈ (visits source base perPage last stores).flatMap Visit.shown := by
  induction stores generalizing last with
  | nil => obtain ⟨final, hfinal, -⟩ := hfinished; simp [visits] at hfinal
  | cons store stores ih =>
      have hrows := hmoments.rows store List.mem_cons_self
      have hmem : row ∈ ahead source base last (store.rows source.table) :=
        mem_ahead.mpr ⟨hstays store List.mem_cons_self, hholds, hahead⟩
      rw [visits, List.flatMap_cons]
      -- Ahead of the walk the row is either on the page or left out by it. What is left out comes
      -- after the row shown last, so that the pages to come have it ahead of them.
      rw [← List.take_append_drop perPage (ahead source base last _)] at hmem
      rcases List.mem_append.mp hmem with hshown | hlater
      · exact List.mem_append_left _ hshown
      · have hmore : perPage < (ahead source base last (store.rows source.table)).length := by
          have hlength := List.length_pos_of_mem hlater
          rw [List.length_drop] at hlength
          omega
        obtain ⟨start, hstart, -⟩ := exists_last_of_more hsize hrows hmore
        have hafter : isAhead (ordersWithKey source base.orders) (some start) row = true := by
          have hascending := h.navigable.ahead_pairwise hrows
            (hmoments.keys store List.mem_cons_self) last
          rw [← List.take_append_drop perPage (ahead source base last _)] at hascending
          exact beq_iff_eq.mpr ((List.pairwise_append.mp hascending).2.2 start
            (List.mem_of_getLast? hstart) row hlater)
        refine List.mem_append_right _ ?_
        rw [visits, if_pos hmore, hstart] at hfinished
        rw [if_pos hmore, hstart]
        refine ih hmoments.tail (hfinished.tail ?_)
          (fun other hother => hstays other (List.mem_cons_of_mem _ hother)) hafter
        simp [next_of_more hmore hstart]

/-- Every visit shows stored rows that satisfy the query, under the columns of the query. -/
theorem visits_sound {visit : Visit}
    (h : (visit, store) ∈ (visits source base perPage last stores).zip stores) :
    visit.page.data = visit.shown.map (Row.project base.columns) ∧
      ∀ row ∈ visit.shown,
        row ∈ store.rows source.table ∧ Predicate.holdsAll row base.predicates = true := by
  induction stores generalizing last with
  | nil => simp [visits] at h
  | cons first stores ih =>
      rw [visits, List.zip_cons_cons] at h
      rcases List.mem_cons.mp h with hcurrent | hlater
      · obtain ⟨rfl, rfl⟩ := Prod.mk.inj hcurrent
        refine ⟨rfl, fun row hrow => ?_⟩
        have hahead := mem_ahead.mp (List.mem_of_mem_take hrow)
        exact ⟨hahead.1, hahead.2.1⟩
      · split at hlater
        · exact ih hlater
        · simp at hlater

/-- The data of the pages are the rows shown under the columns of the query. -/
theorem visits_data (last : Option Row) (stores : List Store) :
    (visits source base perPage last stores).flatMap (fun visit => visit.page.data) =
      ((visits source base perPage last stores).flatMap Visit.shown).map
        (Row.project base.columns) := by
  induction stores generalizing last with
  | nil => rfl
  | cons store stores ih =>
      rw [visits, List.flatMap_cons, List.flatMap_cons, List.map_append]
      refine congrArg (_ ++ ·) ?_
      split
      · exact ih _
      · rfl

/-! ## Walks without changes -/

theorem length_ahead_le (source : EntitySource) (base : SelectQuery) (last : Option Row)
    (rows : List Row) : (ahead source base last rows).length ≤ rows.length := by
  unfold ahead
  refine Nat.le_trans (List.length_filter_le _ _) ?_
  rw [(SelectQuery.arranged_perm _ _).length_eq]
  exact List.length_filter_le _ _

/-- A listing by the orderings of a walk is what is ahead of a walk that starts. -/
theorem fetch_walk_query [Libraries] [LawfulLibraries] (h : Navigable source base held)
    (hrows : ∀ row ∈ store.rows source.table, row ∈ held) {found : List Row}
    (hfound : base.matching (store.rows source.table) = .ok found) :
    store.fetch source (walkQuery source base) =
      .ok ((ahead source base none (store.rows source.table)).map (Row.project base.columns)) := by
  have hall (rows : List Row) :
      rows.filter (isAhead (ordersWithKey source base.orders) none) = rows :=
    List.filter_eq_self.mpr fun _ _ => rfl
  have hpredicates : (walkQuery source base).predicates = base.predicates := rfl
  rw [Store.fetch, SelectQuery.select_eq_of_trans_cmp
    (compare_rows_trans_cmp (h.orderable_satisfying hrows)),
    SelectQuery.matching_congr hpredicates, hfound, ahead, hall]
  rfl

/-- After a page the rows ahead are those that the page left out. -/
theorem ahead_drop (h : Navigable source base held) {rows : List Row}
    (hrows : ∀ row ∈ rows, row ∈ held) (hkeys : Table.KeysUnequal source.primaryKey rows)
    (hlast : ∀ row ∈ last, row ∈ held) {start : Row}
    (hstart : (visit source base perPage last rows).shown.getLast? = some start) :
    ahead source base (some start) rows = (ahead source base last rows).drop perPage := by
  have hascending := h.ahead_pairwise hrows hkeys last
  rw [← List.take_append_drop perPage (ahead source base last rows)] at hascending
  obtain ⟨hshown, -, hbetween⟩ := List.pairwise_append.mp hascending
  have hmem := List.mem_of_getLast? hstart
  have hahead := mem_ahead.mp (List.mem_of_mem_take hmem)
  -- Coming after the row shown last implies coming after the one before, and splits what was ahead
  -- exactly where the page ends.
  have hfewer : ahead source base (some start) rows = (ahead source base last rows).filter
      (isAhead (ordersWithKey source base.orders) (some start)) := by
    simp only [ahead, List.filter_filter]
    refine List.filter_congr fun row hrow => ?_
    have hheld := hrows row (List.mem_filter.mp ((SelectQuery.arranged_perm _ _).mem_iff.mp hrow)).1
    cases hstarted : isAhead (ordersWithKey source base.orders) (some start) row with
    | false => rfl
    | true =>
        rw [is_ahead_of_step h hlast (hrows start hahead.1) hheld hahead.2.2 hstarted]
        rfl
  have hnone : ((ahead source base last rows).take perPage).filter
      (isAhead (ordersWithKey source base.orders) (some start)) = [] := by
    refine List.filter_eq_nil_iff.mpr fun row hrow hafter => ?_
    have hlt := beq_iff_eq.mp hafter
    rcases eq_or_lt_last hshown hstart hrow with rfl | hbefore
    · exact compare_rows_self_ne_lt _ _ hlt
    · rw [← compare_rows_swap, hbefore] at hlt
      exact absurd hlt (by decide)
  have hall : ((ahead source base last rows).drop perPage).filter
      (isAhead (ordersWithKey source base.orders) (some start)) =
        (ahead source base last rows).drop perPage :=
    List.filter_eq_self.mpr fun row hrow => beq_iff_eq.mpr (hbetween start hmem row hrow)
  rw [hfewer, ← List.take_append_drop perPage (ahead source base last rows), List.filter_append,
    hnone, hall, List.nil_append, List.take_append_drop]

/-- A finished walk over an unchanged store shows all rows ahead in their order. -/
theorem shown_replicate (h : Walkable source base held)
    (hrows : ∀ row ∈ store.rows source.table, row ∈ held)
    (hkeys : Table.KeysUnequal source.primaryKey (store.rows source.table))
    (hlast : ∀ row ∈ last, row ∈ held) (hsize : 1 ≤ perPage) {count : Nat}
    (hfinished : Finished (visits source base perPage last (List.replicate count store))) :
    (visits source base perPage last (List.replicate count store)).flatMap Visit.shown =
      ahead source base last (store.rows source.table) := by
  induction count generalizing last with
  | zero => obtain ⟨final, hfinal, -⟩ := hfinished; simp [visits] at hfinal
  | succ count ih =>
      rw [List.replicate_succ, visits] at hfinished ⊢
      rw [List.flatMap_cons]
      by_cases hmore : perPage < (ahead source base last (store.rows source.table)).length
      · obtain ⟨start, hstart, hheld⟩ := exists_last_of_more hsize hrows hmore
        rw [if_pos hmore, hstart] at hfinished
        rw [if_pos hmore, hstart,
          ih hheld (hfinished.tail (by simp [next_of_more hmore hstart])),
          ahead_drop h.navigable hrows hkeys hlast hstart]
        exact List.take_append_drop perPage _
      · rw [if_neg hmore, List.flatMap_nil, List.append_nil]
        exact List.take_of_length_le (Nat.le_of_not_lt hmore)

/-- A walk over an unchanged store finishes after as many calls as there are rows ahead and one
more. -/
theorem finished_replicate (h : Walkable source base held)
    (hrows : ∀ row ∈ store.rows source.table, row ∈ held)
    (hkeys : Table.KeysUnequal source.primaryKey (store.rows source.table))
    (hlast : ∀ row ∈ last, row ∈ held) (hsize : 1 ≤ perPage) {count : Nat}
    (hcount : (ahead source base last (store.rows source.table)).length < count) :
    Finished (visits source base perPage last (List.replicate count store)) := by
  induction count generalizing last with
  | zero => simp at hcount
  | succ count ih =>
      rw [List.replicate_succ, visits]
      by_cases hmore : perPage < (ahead source base last (store.rows source.table)).length
      · obtain ⟨start, hstart, hheld⟩ := exists_last_of_more hsize hrows hmore
        rw [if_pos hmore, hstart]
        have hfewer := ahead_drop h.navigable hrows hkeys hlast hstart
        refine Finished.cons _ (ih hheld ?_)
        rw [hfewer, List.length_drop]
        omega
      · rw [if_neg hmore]
        exact ⟨_, rfl, next_of_not_more hmore⟩

/-- A walk is finished at the latest by a call that meets no more rows than a page holds. -/
theorem finished_of_few (last : Option Row) (stores : List Store)
    (hfew : (store.rows source.table).length ≤ perPage) :
    Finished (visits source base perPage last (stores ++ [store])) := by
  induction stores generalizing last with
  | nil =>
      have hmore : ¬perPage < (ahead source base last (store.rows source.table)).length := fun h =>
        Nat.not_lt_of_le (Nat.le_trans (length_ahead_le source base last _) hfew) h
      rw [List.nil_append, visits, if_neg hmore]
      exact ⟨_, rfl, next_of_not_more hmore⟩
  | cons first stores ih =>
      rw [List.cons_append, visits]
      by_cases hmore : perPage < (ahead source base last (first.rows source.table)).length
      · rw [if_pos hmore]
        exact (ih _).cons _
      · rw [if_neg hmore]
        exact ⟨_, rfl, next_of_not_more hmore⟩

end CursorPage

/-! ## Every row exactly once -/

theorem occurs_once_of_ascending {orders : List OrderTerm} {rows : List Row} {row : Row}
    (h : rows.Pairwise fun left right => compareRows orders left right = .lt) (hrow : row ∈ rows) :
    OccursOnce row rows := by
  obtain ⟨before, after, rfl⟩ := List.append_of_mem hrow
  obtain ⟨-, hafter, hbefore⟩ := List.pairwise_append.mp h
  refine ⟨before, after, rfl, fun hmem => ?_, fun hmem => ?_⟩
  · exact compare_rows_self_ne_lt orders row (hbefore row hmem row List.mem_cons_self)
  · exact compare_rows_self_ne_lt orders row (List.rel_of_pairwise_cons hafter hmem)

/-- No call of a walk fails as long as the like patterns of the query can be compiled, whatever the
store is changed to between the calls. The pages of a walk whose calls are answered show stored rows
that satisfy the query, in strictly ascending order. When the walk is finished, every row that
satisfies the query and was there at all calls has been shown exactly once; it is finished at the
latest by a call that meets no more rows than a page holds. A walk over an unchanged store finishes,
and its pages make up the listing by the same orderings. -/
theorem walk_shows_each_row [Libraries] [LawfulLibraries] (source : EntitySource)
    (base : SelectQuery) (perPage : Nat) (stores : List Store) (hsize : 1 ≤ perPage)
    (hbound : perPage < 2 ^ 64 - 1)
    (hwalkable : CursorPage.Walkable source base (heldRows source stores))
    (hkeys : ∀ store ∈ stores,
      Table.KeysUnequal source.primaryKey (store.rows source.table)) :
    (Predicate.Compile base.predicates →
      ∃ pages : List CursorPage, walk source base perPage none stores = pages.map .ok) ∧
    ∀ pages : List CursorPage, walk source base perPage none stores = pages.map .ok →
      ∃ visits : List Visit, visits.map Visit.page = pages ∧
        (∀ visit store, (visit, store) ∈ visits.zip stores →
          visit.page.data = visit.shown.map (Row.project base.columns) ∧
          ∀ row ∈ visit.shown,
            row ∈ store.rows source.table ∧ Predicate.holdsAll row base.predicates = true) ∧
        ((visits.flatMap Visit.shown).Pairwise fun left right =>
          compareRows (CursorPage.ordersWithKey source base.orders) left right = .lt) ∧
        (Finished visits → ∀ row, (∀ store ∈ stores, row ∈ store.rows source.table) →
          Predicate.holdsAll row base.predicates = true →
            OccursOnce row (visits.flatMap Visit.shown)) ∧
        (∀ before store, stores = before ++ [store] →
          (store.rows source.table).length ≤ perPage → Finished visits) ∧
        (∀ store, stores = List.replicate stores.length store →
          (Finished visits → store.fetch source (CursorPage.walkQuery source base) =
            .ok (visits.flatMap fun visit => visit.page.data)) ∧
          ((store.rows source.table).length < stores.length → Finished visits)) := by
  have hmoments : CursorPage.Moments source (heldRows source stores) stores :=
    ⟨fun store hstore row hrow => List.mem_flatMap.mpr ⟨store, hstore, hrow⟩, hkeys⟩
  have hlast : ∀ row ∈ (none : Option Row), row ∈ heldRows source stores := nofun
  constructor
  · intro hcompile
    have hwalk :=
      CursorPage.walk_of_compile hwalkable.navigable hcompile hmoments hlast hsize hbound
    exact ⟨(CursorPage.visits source base perPage none stores).map Visit.page,
      hwalk.trans List.map_map.symm⟩
  · intro pages hpages
    have hanswers : ∀ failure, .error failure ∉ walk source base perPage none stores := by
      simp [hpages]
    have hwalk :=
      CursorPage.walk_of_answers hwalkable.navigable hmoments hlast hsize hbound hanswers
    rw [Option.map_none, hpages] at hwalk
    have hsame : (CursorPage.visits source base perPage none stores).map Visit.page = pages := by
      refine (List.map_inj_right fun _ _ => Except.ok.inj).mp (hwalk.trans ?_).symm
      rw [List.map_map]
      rfl
    obtain ⟨hascending, -⟩ := CursorPage.shown_ascending hwalkable hmoments hlast hsize
    refine ⟨CursorPage.visits source base perPage none stores, hsame,
      fun visit store => CursorPage.visits_sound, hascending, ?_, ?_, ?_⟩
    · intro hfinished row hstays hholds
      exact occurs_once_of_ascending hascending
        (CursorPage.mem_shown hwalkable hmoments hsize hfinished hstays hholds rfl)
    · rintro before store rfl hfew
      exact CursorPage.finished_of_few none before hfew
    · intro store hstores
      cases stores with
      | nil => exact ⟨fun ⟨_, hfinal, _⟩ => by simp [CursorPage.visits] at hfinal, by simp⟩
      | cons first rest =>
          have hstore : store ∈ first :: rest := by
            rw [hstores]
            exact List.mem_replicate.mpr ⟨Nat.succ_ne_zero _, rfl⟩
          have hfirst : first = store := (List.cons.inj hstores).1
          have hrows := hmoments.rows store hstore
          refine ⟨fun hfinished => ?_, fun hlength => ?_⟩
          · rw [CursorPage.visits, List.map_cons] at hsame
            rw [← hsame] at hpages
            obtain ⟨found, hfound⟩ := CursorPage.exists_matching_of_walk hwalkable.navigable
              hmoments
              hsize hbound (by simp [hpages])
            rw [hfirst] at hfound
            rw [CursorPage.fetch_walk_query hwalkable.navigable hrows hfound,
              CursorPage.visits_data]
            rw [hstores] at hfinished ⊢
            rw [CursorPage.shown_replicate hwalkable hrows (hkeys store hstore) hlast hsize
              hfinished]
          · rw [hstores]
            refine CursorPage.finished_replicate hwalkable hrows (hkeys store hstore) hlast hsize ?_
            exact Nat.lt_of_le_of_lt (CursorPage.length_ahead_le _ _ _ _) hlength

/-- The table of posts. -/
def postSource : EntitySource := ⟨"posts", "id"⟩

/-- A post under an id, with what it is ranked by. -/
def rankedPost (id : Int) (rank : Json) : Row := [("id", Json.ofInt id), ("rank", rank)]

/-- A store with some posts. -/
def postStore (rows : List Row) : Store := ⟨[("posts", { rows := rows })]⟩

/-- The posts by their ranks, the highest first. -/
def byRank : SelectQuery := { orders := [⟨"rank", .descending⟩] }

/-- A table before and after a post is deleted and one is added. -/
def changingPosts : List Store :=
  [postStore
      [rankedPost 1 (Json.ofInt 4), rankedPost 2 (Json.ofInt 9), rankedPost 3 (Json.ofInt 4)],
    postStore [rankedPost 1 (Json.ofInt 4), rankedPost 3 (Json.ofInt 4)]]

theorem readable_of_ints {values : List Int}
    (h : ∀ value ∈ values, -(2 ^ 63) ≤ value ∧ value < 2 ^ 64) :
    ∀ number, Json.number number ∈ values.map Json.ofInt → number.ReadsBack := by
  intro number hnumber
  obtain ⟨value, hvalue, heq⟩ := List.mem_map.mp hnumber
  obtain rfl : JsonNumber.int value = number := by simpa [Json.ofInt] using heq
  exact JsonNumber.reads_back_int (h value hvalue).1 (h value hvalue).2

theorem changing_posts_walkable :
    CursorPage.Walkable postSource byRank (heldRows postSource changingPosts) := by
  have hfield : ∀ term ∈ CursorPage.ordersWithKey postSource byRank.orders,
      term.field = "rank" ∨ term.field = "id" := by decide +kernel
  have hranks : Row.column "rank" (heldRows postSource changingPosts) =
      [4, 9, 4, 4, 4].map Json.ofInt := rfl
  have hids : Row.column "id" (heldRows postSource changingPosts) =
      [1, 2, 3, 1, 3].map Json.ofInt := rfl
  refine ⟨by decide +kernel, fun term hterm => ?_⟩
  rcases hfield term hterm with hterm | hterm <;> rw [hterm]
  · exact hranks ▸ readable_of_ints (by decide)
  · exact hids ▸ readable_of_ints (by decide)

open scoped Bundled in
/-- The post that stays is shown once, although the one before it is deleted during the walk. -/
theorem walk_shows_each_changing_post :
    ∃ visits : List Visit,
      walk postSource byRank 2 none changingPosts = visits.map (fun visit => .ok visit.page) ∧
      Finished visits ∧
      OccursOnce (rankedPost 3 (Json.ofInt 4)) (visits.flatMap Visit.shown) := by
  have hkeys : ∀ store ∈ changingPosts,
      Table.KeysUnequal postSource.primaryKey (store.rows postSource.table) := by
    unfold Table.KeysUnequal
    decide +kernel
  obtain ⟨hanswers, hpages⟩ := walk_shows_each_row postSource byRank 2 changingPosts (by decide)
    (by decide) changing_posts_walkable hkeys
  obtain ⟨pages, hwalk⟩ := hanswers nofun
  obtain ⟨visits, rfl, -, -, honce, hfew, -⟩ := hpages pages hwalk
  have hfinished : Finished visits := hfew [_] _ rfl (by decide)
  refine ⟨visits, hwalk.trans List.map_map, hfinished, honce hfinished _ ?_ rfl⟩
  intro store hstore
  simp only [changingPosts, List.mem_cons, List.not_mem_nil, or_false] at hstore
  rcases hstore with rfl | rfl
  · exact .tail _ (.tail _ (.head _))
  · exact .tail _ (.head _)

/-! ## Keys that compare equal, and doubles that are not read back -/

section Lost

open scoped Bundled

/-- A walk by pages of one row over a table of two posts that shows the first post only, although
the listing has both of them. -/
def LosesSecond (orders : List OrderTerm) (first second : Row) : Prop :=
  ∃ page final : CursorPage,
    walk postSource { orders := orders } 1 none
      [postStore [first, second], postStore [first, second]] = [.ok page, .ok final] ∧
    final.next = none ∧ page.data ++ final.data = [first] ∧
    (postStore [first, second]).fetch postSource
      (CursorPage.walkQuery postSource { orders := orders }) = .ok [first, second]

/-- Two rows that stand in order are left alone. -/
theorem SelectQuery.sorted_pair {query : SelectQuery} {first second : Row}
    (h : compareRows query.orders first second ≠ .gt) :
    query.sorted [first, second] = .ok [first, second] := by
  have hnot : compareRows query.orders second first ≠ .lt := by
    rwa [← compare_rows_swap, ne_eq, Ordering.swap_eq_lt]
  have hsort : Bundled.sort (compareRows query.orders) [first, second] = [first, second] := by
    simp [Bundled.sort, Bundled.insertAll, Bundled.insertBehind, hnot]
  unfold SelectQuery.sorted
  split
  · rfl
  · exact congrArg Except.ok hsort

theorem SelectQuery.select_eq_nil {query : SelectQuery} {rows : List Row}
    (h : query.matching rows = .ok []) : query.select rows = .ok [] := by
  have hsorted : query.sorted [] = .ok [] := sorted_of_length_le (by simp)
  exact select_eq_ok_iff.mpr
    ⟨[], ⟨[], [], h, hsorted, List.sublist_nil.mp (query.window_sublist [])⟩, rfl⟩

/-- The second row is lost when neither row comes after the position read from the token of the
first one. -/
theorem loses_second {orders : List OrderTerm} {first second : Row} {values : List Json}
    (hsorted : compareRows (CursorPage.ordersWithKey postSource orders) first second ≠ .gt)
    (htoken : Cursor.ofToken? (CursorPage.boundary
      (CursorPage.ordersWithKey postSource orders) true first) = some ⟨values, true⟩)
    (hlost : ∀ row ∈ [first, second], Predicate.holds row
      (Cursor.after (CursorPage.ordersWithKey postSource orders) values) = false) :
    LosesSecond orders first second := by
  let base : SelectQuery := { orders := orders }
  let session : Session := { store := postStore [first, second] }
  have hfirst : session.store.fetch postSource (CursorPage.query base postSource 1 none) =
      .ok [first, second] := by
    show (SelectQuery.sorted _ [first, second] >>= _) = _
    rw [SelectQuery.sorted_pair hsorted]
    rfl
  have hsecond : session.store.fetch postSource
      (CursorPage.query base postSource 1 (some ⟨values, true⟩)) = .ok [] := by
    refine SelectQuery.select_eq_nil ?_
    rw [CursorPage.matching_query]
    refine congrArg Except.ok (List.filter_eq_nil_iff.mpr fun row hrow => ?_)
    show ¬(Predicate.holds row
      (Cursor.after (CursorPage.ordersWithKey postSource orders) values) && true) = true
    rw [hlost row hrow, Bool.false_and]
    exact Bool.false_ne_true
  have hanswer : (Session.perform session (Session.cursorPaginate postSource base 1 none)).1 =
      .ok (CursorPage.ofRows base postSource 1 none [first, second]) := by
    rw [CursorPage.perform_cursor_paginate_of_decode rfl (Nat.le_refl 1) (by decide), hfirst]
    rfl
  have hanswer' : (Session.perform session (Session.cursorPaginate postSource base 1
      (some (CursorPage.boundary (CursorPage.ordersWithKey postSource orders) true first)))).1 =
        .ok (CursorPage.ofRows base postSource 1 (some ⟨values, true⟩) []) := by
    rw [CursorPage.perform_cursor_paginate_of_decode
      (CursorPage.perform_decode_cursor htoken session) (Nat.le_refl 1) (by decide), hsecond]
    rfl
  refine ⟨CursorPage.ofRows base postSource 1 none [first, second],
    CursorPage.ofRows base postSource 1 (some ⟨values, true⟩) [], ?_, rfl, rfl, ?_⟩
  · rw [walk, hanswer]
    show _ :: walk postSource base 1 (some
      (CursorPage.boundary (CursorPage.ordersWithKey postSource orders) true first)) _ = _
    rw [walk, hanswer']
    rfl
  · show (SelectQuery.sorted _ [first, second] >>= _) = _
    rw [SelectQuery.sorted_pair hsorted]
    rfl

/-- A double whose written form is read back as the next greater double. -/
def tinyRank : Binary64 := ⟨4233087679066701272⟩

/-- A post with that rank. -/
def tinyPost (id : Int) : Row := rankedPost id (.number (.double tinyRank))

/-- Whether a cursor leads on from two numbers. -/
def leadsOnFrom (rank key : JsonNumber) : Option Cursor → Bool
  | some ⟨[.number first, .number second], forward⟩ => first == rank && second == key && forward
  | _ => false

theorem eq_of_leads_on_from {rank key : JsonNumber} {cursor : Option Cursor}
    (h : leadsOnFrom rank key cursor = true) :
    cursor = some ⟨[.number rank, .number key], true⟩ := by
  unfold leadsOnFrom at h
  split at h
  · simp only [Bool.and_eq_true, beq_iff_eq] at h
    obtain ⟨⟨rfl, rfl⟩, rfl⟩ := h
    rfl
  · exact absurd h (by decide)

/-- The token of a post with this rank leads on from the next greater rank. -/
theorem of_token_tiny_post :
    Cursor.ofToken? (CursorPage.boundary [⟨"rank", .ascending⟩, ⟨"id", .ascending⟩] true
      (tinyPost 1)) = some ⟨[.number (.double ⟨4233087679066701273⟩), .number (.int 1)], true⟩ :=
  eq_of_leads_on_from (by decide +kernel)

/-- Of two posts under one id the second is lost, and of two posts with such a double as well. -/
theorem walk_loses_second_post :
    ((∀ term ∈ CursorPage.ordersWithKey postSource [],
        Orderable term.field [rankedPost 1 (.string "a"), rankedPost 1 (.string "b")]) ∧
      LosesSecond [] (rankedPost 1 (.string "a")) (rankedPost 1 (.string "b"))) ∧
    (∀ term ∈ CursorPage.ordersWithKey postSource [⟨"rank", .ascending⟩],
        Orderable term.field [tinyPost 1, tinyPost 2]) ∧
      LosesSecond [⟨"rank", .ascending⟩] (tinyPost 1) (tinyPost 2) := by
  have htoken : Cursor.ofToken? (Cursor.token ⟨[Json.ofInt 1], true⟩) =
      some ⟨[Json.ofInt 1], true⟩ := by
    refine Cursor.of_token_token fun value hvalue => ?_
    obtain rfl := List.mem_singleton.mp hvalue
    exact JsonNumber.reads_back_int (by decide) (by decide)
  refine ⟨⟨by decide +kernel, ?_⟩, by decide +kernel, ?_⟩
  · exact loses_second (by decide +kernel) htoken (by decide +kernel)
  · exact loses_second (by decide +kernel) of_token_tiny_post (by decide +kernel)

end Lost

end EntityGate
