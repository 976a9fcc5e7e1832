import EntityGate.Listing.Basic
import EntityGate.Proofs.Gate.Mutation
import EntityGate.Proofs.Paging.Columns
import EntityGate.Proofs.Session.Effects

/-!
# What a listing shows

However a listing is cut into pages, its rows are rows of the table that satisfy the query of the
listing, each no more often than it is stored, under the columns of that query: see `list_shows`.
The query still holds every predicate of the scope of the gate, so that nothing in a request leads
out of it: read `listing_stays_in_scope`.
-/

namespace EntityGate

open Session (perform)

namespace SelectQuery

/-- The rows are stored rows that satisfy the query, each no more often than it is stored, under
the columns of the query. -/
def Shows (query : SelectQuery) (stored rows : List Row) : Prop :=
  ∃ shown : List Row, shown.Subperm (query.satisfying stored) ∧
    rows = shown.map (Row.project query.columns)

/-- The predicates of the second query are all there in the first. -/
def Narrows (query base : SelectQuery) : Prop :=
  ∃ added, query.predicates = base.predicates ++ added

/-- Selecting arranges the rows that satisfy the query and leaves some of them out. -/
theorem shows_of_select [Libraries] [LawfulLibraries] {query : SelectQuery}
    {stored found : List Row} (h : query.select stored = .ok found) : query.Shows stored found := by
  obtain ⟨chosen, hchosen, rfl⟩ := select_eq_ok_iff.mp h
  exact ⟨chosen, hchosen.subperm, rfl⟩

theorem Narrows.trans {query middle base : SelectQuery} (h : query.Narrows middle)
    (hmiddle : middle.Narrows base) : query.Narrows base := by
  obtain ⟨added, hadded⟩ := h
  obtain ⟨before, hbefore⟩ := hmiddle
  exact ⟨before ++ added, by rw [hadded, hbefore, List.append_assoc]⟩

/-- A narrower query is satisfied by some of the rows, and they stand in the same order. -/
theorem Narrows.satisfying_sublist {query base : SelectQuery} (h : query.Narrows base)
    (stored : List Row) : (query.satisfying stored).Sublist (base.satisfying stored) := by
  obtain ⟨added, hadded⟩ := h
  refine List.monotone_filter_right stored fun row hrow => ?_
  rw [hadded, Predicate.holds_all_append, Bool.and_eq_true] at hrow
  exact hrow.1

/-- Whatever is asked of a query under construction, its predicates stay. -/
theorem steps_narrows (query : SelectQuery) (list : List QueryStep) :
    (query.steps list).Narrows query := by
  unfold steps
  induction list generalizing query with
  | nil => exact ⟨[], (List.append_nil _).symm⟩
  | cons first rest ih =>
      have hfirst : (query.step first).Narrows query := by
        cases first with
        | addPredicate predicate => exact ⟨[predicate], rfl⟩
        | addOrder field direction => exact ⟨[], (List.append_nil _).symm⟩
        | setColumns columns => exact ⟨[], (List.append_nil _).symm⟩
      exact (ih (query.step first)).trans hfirst

/-- Orderings change neither the predicates nor the columns of a query. -/
theorem foldl_add_order (query : SelectQuery) (terms : List OrderTerm) :
    terms.foldl (fun query term => query.addOrder term.field term.direction) query =
      { query with orders := query.orders ++ terms } := by
  induction terms generalizing query with
  | nil => simp
  | cons term rest ih => rw [List.foldl_cons, ih]; simp [addOrder]

end SelectQuery

section Answers

variable [Libraries] {session after : Session} {source : EntitySource} {base : SelectQuery}
  {perPage : Nat}

/-- An answered call cuts its page out of the rows found behind those before it, and counts. -/
theorem ClassicPage.of_paginate {number : Nat} {page : ClassicPage}
    (h : perform session (Session.paginate source base perPage number) = (.ok page, after)) :
    ∃ total rows, (max number 1 - 1) * max perPage 1 < 2 ^ 64 ∧
      session.store.count source base = .ok total ∧
      session.store.fetch source
        (query base (max perPage 1) ((max number 1 - 1) * max perPage 1)) = .ok rows ∧
      page = ofRows (max perPage 1) (max number 1) ((max number 1 - 1) * max perPage 1) total
        rows := by
  obtain ⟨total, middle, hcount, h⟩ := Session.perform_bind_eq_ok h
  rw [Session.perform_count] at hcount
  obtain ⟨htotal, rfl⟩ := Prod.mk.inj hcount
  obtain ⟨offset, _, hoffset, h⟩ := Session.perform_bind_eq_ok h
  rw [Session.perform_lift] at hoffset
  obtain ⟨hbound, rfl⟩ := Prod.mk.inj hoffset
  obtain ⟨hsmall, rfl⟩ := Failure.unsigned64_eq_ok_iff.mp hbound
  obtain ⟨rows, _, hfetch, h⟩ := Session.perform_bind_eq_ok h
  rw [Session.perform_fetch, Session.noting_store] at hfetch
  exact ⟨total, rows, hsmall, htotal, congrArg Prod.fst hfetch,
    (Except.ok.inj (congrArg Prod.fst h)).symm⟩

namespace CursorPage

/-- An answered call reads its token and cuts its page out of the rows selected from that
position. -/
theorem of_cursor_paginate {token : Option String} {page : CursorPage}
    (h : perform session (Session.cursorPaginate source base perPage token) = (.ok page, after)) :
    ∃ cursor rows, (perform session (Session.decodeCursor token)).1 = .ok cursor ∧
      session.store.fetch source (query base source (max perPage 1) cursor) = .ok rows ∧
      page = ofRows base source (max perPage 1) cursor rows := by
  obtain ⟨cursor, middle, hdecode, h⟩ := Session.perform_bind_eq_ok h
  have hreads : Session.ReadsOnly source (Session.decodeCursor token) := .decode_cursor token
  have hstore := hreads.store_eq session
  rw [hdecode] at hstore
  obtain ⟨_, _, hbound, h⟩ := Session.perform_bind_eq_ok h
  rw [Session.perform_lift] at hbound
  obtain ⟨-, rfl⟩ := Prod.mk.inj hbound
  obtain ⟨rows, _, hfetch, h⟩ := Session.perform_bind_eq_ok h
  rw [Session.perform_fetch, show middle.store = session.store from hstore] at hfetch
  exact ⟨cursor, rows, by rw [hdecode], congrArg Prod.fst hfetch,
    (Except.ok.inj (congrArg Prod.fst h)).symm⟩

/-- A page of a walk, forward or backward from any position, shows rows of the query itself. -/
theorem of_rows_shows [LawfulLibraries] {cursor : Option Cursor} {stored rows : List Row}
    (h : (query base source perPage cursor).select stored = .ok rows) :
    base.Shows stored (ofRows base source perPage cursor rows).data := by
  obtain ⟨found, hfound, rfl⟩ := SelectQuery.shows_of_select h
  have hnarrows : (query base source perPage cursor).Narrows base := ⟨_, rfl⟩
  have hstored : found.Subperm (base.satisfying stored) :=
    hfound.trans (hnarrows.satisfying_sublist stored).subperm
  have hpage : (found.take perPage).Subperm (base.satisfying stored) :=
    (List.take_sublist _ _).subperm.trans hstored
  refine ⟨pageRows perPage cursor found, ?_,
    congrArg CursorPage.data (of_rows_fetched base source perPage cursor found)⟩
  unfold pageRows
  split
  · exact (List.reverse_perm _).subperm.trans hpage
  · exact hpage

end CursorPage

end Answers

namespace GateVersion

section Listings

variable [Libraries] {gate : GateVersion} {validate : InputValidator}
    {defaults : PaginationDefaults} {request : Request}
  {session : Session} {query : SelectQuery} {page : PageResult}

omit [Libraries] in
/-- Filters and orderings only add to the scope. -/
theorem listing_query_narrows (h : gate.listingQuery validate request = .ok query) :
    query.Narrows (gate.scope request) := by
  unfold listingQuery at h
  cases hparse : gate.grammar.parse validate request.filters with
  | error error =>
      rw [hparse] at h
      cases h
  | ok instructions =>
      rw [hparse] at h
      obtain rfl := Except.ok.inj h
      rw [SelectQuery.foldl_add_order]
      exact SelectQuery.steps_narrows _ _

/-- Filters that are refused are the end of a listing. -/
theorem perform_list_error {error : RequestError}
    (h : gate.listingQuery validate request = .error error) :
    perform session (gate.list validate defaults request) =
      (.error (.reported error), session) := by
  unfold list
  rw [h]
  rfl

/-- A listing whose filters are accepted is the page of its query. -/
theorem perform_list_ok (h : gate.listingQuery validate request = .ok query) :
    perform session (gate.list validate defaults request) =
      perform session (gate.page query (gate.pagePlan defaults request)
        (request.page.getD 1)) := by
  unfold list
  rw [h]
  exact Session.perform_bind_ok (Session.perform_pure _ _) _

variable [LawfulLibraries]

/-- The rows of a page are rows that its query shows, and a total counts all rows that satisfy
it. -/
theorem page_shows {plan : PaginationPlan} {number : Nat}
    (h : (perform session (gate.page query plan number)).1 = .ok page) :
    query.Shows (session.store.rows gate.source.table) page.rows ∧
      ∀ classic, page = .classic classic →
        classic.total = (query.satisfying (session.store.rows gate.source.table)).length := by
  unfold GateVersion.page at h
  split at h
  · obtain ⟨cut, middle, hcut, hrest⟩ := Session.perform_bind_eq_ok (Prod.ext h rfl)
    obtain rfl := Except.ok.inj (congrArg Prod.fst hrest)
    obtain ⟨cursor, rows, -, hrows, rfl⟩ := CursorPage.of_cursor_paginate hcut
    exact ⟨CursorPage.of_rows_shows hrows, nofun⟩
  · obtain ⟨cut, middle, hcut, hrest⟩ := Session.perform_bind_eq_ok (Prod.ext h rfl)
    obtain rfl := Except.ok.inj (congrArg Prod.fst hrest)
    obtain ⟨total, rows, -, htotal, hrows, rfl⟩ := ClassicPage.of_paginate hcut
    have hshows : (ClassicPage.query query _ _).Shows _ rows := SelectQuery.shows_of_select hrows
    refine ⟨hshows, ?_⟩
    rintro _ ⟨⟩
    obtain ⟨matched, hmatched, rfl⟩ :=
      except_map_eq_ok_iff.mp (Failure.reporting_eq_ok_iff.mp htotal)
    exact congrArg List.length (SelectQuery.matching_eq hmatched)
  · obtain ⟨rows, middle, hrows, hrest⟩ := Session.perform_bind_eq_ok (Prod.ext h rfl)
    obtain rfl := Except.ok.inj (congrArg Prod.fst hrest)
    rw [Session.perform_fetch] at hrows
    exact ⟨SelectQuery.shows_of_select (congrArg Prod.fst hrows), nofun⟩

/-- An answered listing shows rows of its query. -/
theorem list_shows (h : (perform session (gate.list validate defaults request)).1 = .ok page) :
    ∃ query, gate.listingQuery validate request = .ok query ∧
      query.Shows (session.store.rows gate.source.table) page.rows ∧
      ∀ classic, page = .classic classic →
        classic.total = (query.satisfying (session.store.rows gate.source.table)).length := by
  cases hquery : gate.listingQuery validate request with
  | error error =>
      rw [perform_list_error hquery] at h
      cases h
  | ok query =>
      rw [perform_list_ok hquery] at h
      exact ⟨query, rfl, page_shows h⟩

/-- Whatever a request asks for, the rows of its listing are rows of the table that satisfy every
predicate of the scope of the gate, each no more often than it is stored, and a total counts such
rows only. -/
theorem listing_stays_in_scope (gate : GateVersion) (validate : InputValidator)
    (defaults : PaginationDefaults) (request : Request) (session : Session) {page : PageResult}
    (answered : (perform session (gate.list validate defaults request)).1 = .ok page) :
    ∃ query, gate.listingQuery validate request = .ok query ∧
      (∃ shown : List Row, shown.Subperm (session.store.rows gate.source.table) ∧
        (∀ row ∈ shown, Predicate.holdsAll row (gate.scope request).predicates = true) ∧
        page.rows = shown.map (Row.project query.columns)) ∧
      ∀ classic, page = .classic classic →
        ∃ counted : List Row, counted.Sublist (session.store.rows gate.source.table) ∧
          (∀ row ∈ counted, Predicate.holdsAll row (gate.scope request).predicates = true) ∧
          classic.total = counted.length := by
  obtain ⟨query, hquery, ⟨shown, hshown, hrows⟩, htotal⟩ := list_shows answered
  have hscope : (query.satisfying (session.store.rows gate.source.table)).Sublist
      ((gate.scope request).satisfying (session.store.rows gate.source.table)) :=
    (listing_query_narrows hquery).satisfying_sublist _
  have hholds : ∀ row ∈ query.satisfying (session.store.rows gate.source.table),
      Predicate.holdsAll row (gate.scope request).predicates = true := by
    intro row hrow
    exact (List.mem_filter.mp (hscope.subset hrow)).2
  refine ⟨query, hquery, ⟨shown, ?_, ?_, hrows⟩, ?_⟩
  · exact hshown.trans List.filter_sublist.subperm
  · intro row hrow
    exact hholds row (hshown.subset hrow)
  · intro classic hclassic
    exact ⟨_, List.filter_sublist, hholds, htotal classic hclassic⟩

end Listings

/-- A request that asks for everything but the notes of one owner. -/
def othersRequest : Request := { filters := .push .empty "owner" "neq" (.string "carl") }

open scoped Bundled in
/-- The notes of bob, whom the request does not leave out either, are out of scope and stay so. -/
theorem listing_stays_in_scope_of_notes :
    ∃ page, (perform noteSession (noteGate.list Validator.validate {} othersRequest)).1 =
        .ok (.classic page) ∧
      page.total = 1 ∧
      ∃ (query : SelectQuery) (shown : List Row),
        shown.Subperm (noteSession.store.rows "notes") ∧
        (∀ row ∈ shown, Predicate.holdsAll row (noteGate.scope othersRequest).predicates = true) ∧
        page.data = shown.map (Row.project query.columns) := by
  let page : ClassicPage :=
    ⟨[[("id", .ofNat 2), ("owner", .string "ann")]], 1, 15, 1, 1, some 1, some 1⟩
  have hpage : (perform noteSession (noteGate.list Validator.validate {} othersRequest)).1 =
      .ok (.classic page) := by
    rfl
  obtain ⟨query, -, ⟨shown, hstored, hholds, hdata⟩, -⟩ :=
    listing_stays_in_scope noteGate Validator.validate {} othersRequest noteSession hpage
  exact ⟨page, hpage, rfl, query, shown, hstored, hholds, hdata⟩

end GateVersion

end EntityGate
