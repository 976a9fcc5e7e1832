import EntityGate.Proofs.Listing.Scope
import EntityGate.Proofs.Paging.Walk

/-!
# What a token records

The token of a page records values of a stored row, ordering by ordering. A query with a choice of
columns records the values that the row was sorted by, those at the end of a path included: read
`tokens_record_positions`. Pages of whole rows record the column of the very name of the ordering,
so that they record a null for a path: see `path_recorded_as_null`.
-/

namespace EntityGate

open Session (perform)

namespace CursorPage

/-- A page of the rows selected shows stored rows, and its tokens record the last and the first of
them. -/
theorem of_rows_project (base : SelectQuery) (source : EntitySource) (perPage : Nat)
    (cursor : Option Cursor) (chosen : List Row) :
    let page := ofRows base source perPage cursor
      (chosen.map (Row.project (query base source perPage cursor).columns))
    let shown := pageRows perPage cursor chosen
    page.data = shown.map (Row.project base.columns) ∧
      (∀ token, page.next = some token →
        ∃ row, shown.getLast? = some row ∧ token = recordToken base source true row) ∧
      ∀ token, page.previous = some token →
        ∃ row, shown.head? = some row ∧ token = recordToken base source false row := by
  intro page shown
  have hpage : page = _ := of_rows_fetched base source perPage cursor _
  rw [hpage]
  refine ⟨rfl, fun token htoken => ?_, fun token htoken => ?_⟩
  · obtain ⟨-, hlast⟩ := Option.ite_none_right_eq_some.mp htoken
    obtain ⟨row, hrow, rfl⟩ := Option.map_eq_some_iff.mp hlast
    exact ⟨row, hrow, rfl⟩
  · obtain ⟨-, hfirst⟩ := Option.ite_none_right_eq_some.mp htoken
    obtain ⟨row, hrow, rfl⟩ := Option.map_eq_some_iff.mp hfirst
    exact ⟨row, hrow, rfl⟩

theorem mem_of_mem_page_rows {perPage : Nat} {cursor : Option Cursor} {chosen : List Row}
    {row : Row} (h : row ∈ pageRows perPage cursor chosen) : row ∈ chosen := by
  unfold pageRows at h
  split at h
  · exact List.mem_of_mem_take (List.mem_reverse.mp h)
  · exact List.mem_of_mem_take h

/-- The value is what a token should hold of a row for an ordering: what the row was sorted by. For
whole rows it is the column of that name, which is another one if the ordering is a path. -/
structure Records (columns : List String) (row : Row) (term : OrderTerm) (value : Json) :
    Prop where
  sorted : columns ≠ [] ∨ Identifier.isDotted term.field = false →
    value = (row.lookup term.field).getD .null
  named : columns = [] → value = (JsonFields.get? row term.field).getD .null

/-- The recorded position holds one value for each ordering. -/
theorem records_position (columns : List String) (orders : List OrderTerm) (row : Row) :
    List.Forall₂ (Records columns row) orders (recordedPosition columns orders row) := by
  rw [recordedPosition, List.forall₂_map_right_iff, List.forall₂_same]
  refine fun term _ => ⟨fun hcondition => ?_, fun hcolumns => ?_⟩
  · rcases hcondition with hcolumns | hundotted
    · exact recorded_value_of_columns hcolumns row term.field
    · rw [recorded_value_of_undotted hundotted, Row.lookup_of_undotted hundotted]
  · rw [recordedValue, hcolumns]
    rfl

end CursorPage

/-- The token to go on from a page records the last of the stored rows behind it, and the token to
go back the first one. For each ordering it holds the value that the row was sorted by, and a null
only if that is a null or missing, provided that the query chooses columns or the ordering is no
path. -/
theorem tokens_record_positions [Libraries] [LawfulLibraries] (source : EntitySource)
    (base : SelectQuery) (perPage : Nat) (token : Option String) (session : Session)
    {page : CursorPage}
    (answered : (perform session (Session.cursorPaginate source base perPage token)).1 =
      .ok page) :
    ∃ cursor chosen, (perform session (Session.decodeCursor token)).1 = .ok cursor ∧
      (CursorPage.query base source (max perPage 1) cursor).Selects
        (session.store.rows source.table) chosen ∧
      let orders := CursorPage.ordersWithKey source base.orders
      let shown := CursorPage.pageRows (max perPage 1) cursor chosen
      (∀ row ∈ shown, row ∈ session.store.rows source.table) ∧
        page.data = shown.map (Row.project base.columns) ∧
        (∀ next, page.next = some next → ∃ row values, shown.getLast? = some row ∧
          next = Cursor.token ⟨values, true⟩ ∧
          List.Forall₂ (CursorPage.Records base.columns row) orders values) ∧
        ∀ previous, page.previous = some previous → ∃ row values, shown.head? = some row ∧
          previous = Cursor.token ⟨values, false⟩ ∧
          List.Forall₂ (CursorPage.Records base.columns row) orders values := by
  obtain ⟨cursor, rows, hdecode, hrows, rfl⟩ := CursorPage.of_cursor_paginate
    (Prod.ext answered rfl)
  obtain ⟨chosen, hchosen, rfl⟩ := SelectQuery.select_eq_ok_iff.mp hrows
  obtain ⟨hdata, hnext, hprevious⟩ :=
    CursorPage.of_rows_project base source (max perPage 1) cursor chosen
  refine ⟨cursor, chosen, hdecode, hchosen, fun row hrow => ?_, hdata, fun next hsome => ?_,
    fun previous hsome => ?_⟩
  · have hfound := hchosen.subperm.subset (CursorPage.mem_of_mem_page_rows hrow)
    exact (List.mem_filter.mp hfound).1
  · obtain ⟨row, hrow, rfl⟩ := hnext next hsome
    exact ⟨row, _, hrow, rfl, CursorPage.records_position _ _ row⟩
  · obtain ⟨row, hrow, rfl⟩ := hprevious previous hsome
    exact ⟨row, _, hrow, rfl, CursorPage.records_position _ _ row⟩

/-- A post in a language, which is a value inside of a column. -/
def languagePost (id : Int) (language : String) : Row :=
  [("id", Json.ofInt id), ("meta", .object [("lang", .string language)])]

/-- Posts by their language. -/
def byLanguage (columns : List String) : SelectQuery :=
  { columns := columns, orders := [⟨"meta.lang", .ascending⟩] }

/-- A table of two posts in the order of their languages. -/
def languagePosts : List Row := [languagePost 1 "de", languagePost 2 "en"]

open scoped Bundled

/-- Two posts in the order of their languages are what a first page is cut out of. -/
theorem sorted_language_posts {query : SelectQuery}
    (horders : query.orders = [⟨"meta.lang", .ascending⟩, ⟨"id", .ascending⟩]) :
    query.sorted languagePosts = .ok languagePosts := by
  refine SelectQuery.sorted_pair ?_
  rw [horders]
  decide +kernel

/-- The first page of one post is cut out of both posts. -/
theorem first_language_page (columns : List String) :
    (perform { store := postStore languagePosts }
      (Session.cursorPaginate postSource (byLanguage columns) 1 none)).1 =
        .ok (CursorPage.ofRows (byLanguage columns) postSource 1 none
          (languagePosts.map (Row.project (columns ++ CursorPage.extraColumns columns
            [⟨"meta.lang", .ascending⟩, ⟨"id", .ascending⟩])))) := by
  have hselects : (CursorPage.query (byLanguage columns) postSource 1 none).Selects languagePosts
      languagePosts := ⟨languagePosts, languagePosts, rfl, sorted_language_posts rfl, rfl⟩
  have hfetch := SelectQuery.select_eq_ok_iff.mpr ⟨languagePosts, hselects, rfl⟩
  rw [CursorPage.perform_cursor_paginate_of_decode rfl (Nat.le_refl 1) (by decide)]
  exact congrArg (Except.map _) hfetch

/-- The token behind the first post, of whose columns only the id is shown, records its language. -/
theorem language_recorded :
    ∃ page, (perform { store := postStore languagePosts }
      (Session.cursorPaginate postSource (byLanguage ["id"]) 1 none)).1 = .ok page ∧
      page.data = [[("id", Json.ofInt 1)]] ∧
      page.next = some (Cursor.token ⟨[.string "de", Json.ofInt 1], true⟩) := by
  obtain ⟨cursor, chosen, hcursor, ⟨matched, sorted, hmatched, hsorted, hwindow⟩, -, hdata,
    hnext, -⟩ :=
    tokens_record_positions postSource (byLanguage ["id"]) 1 none
      { store := postStore languagePosts } (first_language_page ["id"])
  obtain rfl : none = cursor := Except.ok.inj hcursor
  obtain rfl : languagePosts = matched := Except.ok.inj hmatched
  rw [sorted_language_posts rfl] at hsorted
  obtain rfl : languagePosts = sorted := Except.ok.inj hsorted
  obtain rfl : languagePosts = chosen := hwindow
  refine ⟨_, first_language_page ["id"], hdata.trans rfl, ?_⟩
  obtain ⟨row, values, hrow, htoken, hvalues⟩ := hnext _ rfl
  have hlast : [languagePost 1 "de"].getLast? = some row := hrow
  obtain rfl := Option.some.inj hlast
  change List.Forall₂ _ [(⟨"meta.lang", .ascending⟩ : OrderTerm), ⟨"id", .ascending⟩] _
    at hvalues
  obtain _ | ⟨hlanguage, _ | ⟨hid, ⟨⟩⟩⟩ := hvalues
  obtain rfl : _ = Json.string "de" := hlanguage.sorted (.inl (by decide))
  obtain rfl : _ = Json.ofInt 1 := hid.sorted (.inl (by decide))
  exact congrArg some htoken

/-- The token behind the first one of these posts as a whole records a null for the language. -/
theorem path_recorded_as_null :
    ∃ page token, (perform { store := postStore languagePosts }
      (Session.cursorPaginate postSource (byLanguage []) 1 none)).1 = .ok page ∧
      page.data = [languagePost 1 "de"] ∧ page.next = some token ∧
      Cursor.ofToken? token = some ⟨[.null, Json.ofInt 1], true⟩ ∧
      (languagePost 1 "de").lookup "meta.lang" = some (.string "de") := by
  refine ⟨_, _, first_language_page [], rfl, rfl, ?_, by rfl⟩
  show Cursor.ofToken? (Cursor.token ⟨[.null, Json.ofInt 1], true⟩) = _
  refine Cursor.of_token_token fun value hvalue => ?_
  rcases List.mem_pair.mp hvalue with rfl | rfl
  · trivial
  · exact JsonNumber.reads_back_int (by decide) (by decide)

end EntityGate
