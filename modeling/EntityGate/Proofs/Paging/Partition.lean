import EntityGate.Proofs.Paging.Return
import EntityGate.Proofs.Store.Kinds
import Mathlib.Algebra.Order.Floor.Div

/-!
# Classic pages

Each page is fetched anew, and each time it is cut out of the same listing, so that a page fails
where the listing does: see `perform_paginate`. The pages up to the last one cut the listing into
stretches of equal size, of which only the last may be shorter. Put together they are the listing,
and each of them knows its place in it: see `classic_pages_partition`. The number of rows before a
page has to stay within 64 bits, which it does up to the last page, whatever the size of a page.
-/

namespace EntityGate

namespace ClassicPage

/-! ## Stretches of equal size -/

/-- The number of pages of a listing, which has at least one. -/
def pageCount (perPage total : Nat) : Nat := max 1 (total ⌈/⌉ perPage)

/-- The rows between two page borders. -/
def stretch (listing : List Row) (perPage place : Nat) : List Row :=
  (listing.drop (place * perPage)).take perPage

variable {listing : List Row} {perPage place total : Nat}

theorem total_le_page_count (hsize : 1 ≤ perPage) (total : Nat) :
    total ≤ pageCount perPage total * perPage :=
  calc total ≤ perPage * (total ⌈/⌉ perPage) := (ceilDiv_le_iff_le_mul hsize).mp (Nat.le_refl _)
    _ ≤ perPage * pageCount perPage total := Nat.mul_le_mul_left _ (Nat.le_max_right _ _)
    _ = pageCount perPage total * perPage := Nat.mul_comm _ _

/-- A page behind another one starts before the end of the listing. -/
theorem border_lt (hsize : 1 ≤ perPage) (hplace : place + 1 < pageCount perPage total) :
    (place + 1) * perPage < total := by
  have hceil : place + 1 < total ⌈/⌉ perPage := by
    unfold pageCount at hplace
    omega
  refine Nat.lt_of_not_le fun hle => Nat.not_le_of_lt hceil ?_
  rw [Nat.mul_comm] at hle
  exact (ceilDiv_le_iff_le_mul hsize).mpr hle

/-- A page starts at the latest where the listing ends. -/
theorem border_le (hsize : 1 ≤ perPage) (hplace : place < pageCount perPage total) :
    place * perPage ≤ total := by
  cases place with
  | zero => simp
  | succ before => exact Nat.le_of_lt (border_lt hsize hplace)

theorem flat_map_stretch (listing : List Row) (perPage count : Nat) :
    (List.range count).flatMap (stretch listing perPage) = listing.take (count * perPage) := by
  induction count with
  | zero => simp
  | succ count ih =>
      rw [List.range_succ, List.flatMap_append, List.flatMap_singleton, ih, Nat.succ_mul,
        List.take_add]
      rfl

theorem length_stretch (listing : List Row) (perPage place : Nat) :
    (stretch listing perPage place).length = min perPage (listing.length - place * perPage) := by
  rw [stretch, List.length_take, List.length_drop]

/-! ## The pages of a listing -/

/-- The page of a listing at a place. -/
def atPlace (listing : List Row) (perPage place : Nat) : ClassicPage :=
  ofRows perPage (place + 1) (place * perPage) listing.length (stretch listing perPage place)

/-- The pages of a listing up to the last one. -/
def pages (listing : List Row) (perPage : Nat) : List ClassicPage :=
  (List.range (pageCount perPage listing.length)).map (atPlace listing perPage)

theorem flat_map_data (listing : List Row) (perPage count : Nat) :
    ((List.range count).map (atPlace listing perPage)).flatMap data =
      listing.take (count * perPage) := by
  rw [List.flatMap_map]
  exact flat_map_stretch listing perPage count

/-- All pages one after the other show the listing. -/
theorem flat_map_pages (hsize : 1 ≤ perPage) (listing : List Row) :
    (pages listing perPage).flatMap data = listing := by
  rw [pages, flat_map_data]
  exact List.take_of_length_le (total_le_page_count hsize listing.length)

/-- The pages before a place show the rows up to its border. -/
theorem flat_map_pages_before (hplace : place < pageCount perPage listing.length) :
    ((pages listing perPage).take place).flatMap data = listing.take (place * perPage) := by
  rw [pages, ← List.map_take, List.take_range, Nat.min_eq_left (Nat.le_of_lt hplace),
    flat_map_data]

theorem page_of_get {page : ClassicPage} (hpage : (pages listing perPage)[place]? = some page) :
    place < pageCount perPage listing.length ∧ page = atPlace listing perPage place := by
  obtain ⟨hplace, rfl⟩ := List.getElem?_eq_some_iff.mp hpage
  rw [pages, List.length_map, List.length_range] at hplace
  refine ⟨hplace, ?_⟩
  simp only [pages, List.getElem_map, List.getElem_range]

/-! ## One page -/

/-- The query for a whole listing. -/
def listingQuery (base : SelectQuery) : SelectQuery := { base with limit := none, offset := none }

section Answers

variable [Libraries]

/-- The rows of a page are a part of the listing. -/
theorem fetch_query (store : Store) (source : EntitySource) (base : SelectQuery)
    (perPage offset : Nat) : store.fetch source (query base perPage offset) =
      (store.fetch source (listingQuery base)).map fun listing =>
        (listing.drop offset).take perPage := by
  have hpredicates : (query base perPage offset).predicates = (listingQuery base).predicates := rfl
  have hsorted : (query base perPage offset).sorted = (listingQuery base).sorted :=
    funext (SelectQuery.sorted_congr rfl)
  unfold Store.fetch SelectQuery.select
  rw [SelectQuery.matching_congr hpredicates, hsorted]
  cases (listingQuery base).matching (store.rows source.table) with
  | error error => rfl
  | ok found =>
      rw [Failure.reporting]
      show (listingQuery base).sorted found >>= _ =
        ((listingQuery base).sorted found >>= _).map _
      cases (listingQuery base).sorted found with
      | error failure => rfl
      | ok sorted =>
          refine congrArg Except.ok ?_
          show _ = ((((listingQuery base).window sorted).map _).drop offset).take perPage
          rw [← List.map_drop, ← List.map_take]
          rfl

/-- The total is the length of the listing, although it is counted apart. -/
theorem count_of_fetch [LawfulLibraries] {store : Store} {source : EntitySource}
    {base : SelectQuery} {listing : List Row}
    (h : store.fetch source (listingQuery base) = .ok listing) :
    store.count source base = .ok listing.length := by
  obtain ⟨_, ⟨found, sorted, hfound, hsorted, rfl⟩, rfl⟩ := SelectQuery.select_eq_ok_iff.mp h
  have hpredicates : base.predicates = (listingQuery base).predicates := rfl
  rw [Store.count, SelectQuery.matching_congr hpredicates, hfound, List.length_map]
  show Except.ok found.length = .ok (sorted.drop 0).length
  rw [List.drop_zero, (SelectQuery.sorted_perm hsorted).length_eq]

/-- A listing that is not answered is not counted either, unless it is sorting that gave up. -/
theorem count_of_fetch_error {store : Store} {source : EntitySource} {base : SelectQuery}
    {failure : Failure} (h : store.fetch source (listingQuery base) = .error failure) :
    store.count source base = .error failure ∨
      failure = .aborted ∧ ∃ total, store.count source base = .ok total := by
  have hpredicates : base.predicates = (listingQuery base).predicates := rfl
  rw [Store.count, SelectQuery.matching_congr hpredicates]
  rw [Store.fetch, SelectQuery.select] at h
  cases hfound : (listingQuery base).matching (store.rows source.table) with
  | error error =>
      rw [hfound] at h
      exact .inl (Except.error.inj h ▸ rfl)
  | ok found =>
      rw [hfound] at h
      refine .inr ⟨?_, found.length, rfl⟩
      rcases except_bind_eq_error_iff.mp h with h | ⟨matched, -, h⟩
      · cases h
      · rcases except_bind_eq_error_iff.mp h with h | ⟨_, -, h⟩
        · exact SelectQuery.eq_aborted_of_sorted h
        · cases h

/-- A call for a page answers with what the page is cut out of the listing, unless the listing fails
or the number of rows before the page leaves 64 bits. -/
theorem perform_paginate [LawfulLibraries] (session : Session) (source : EntitySource)
    (base : SelectQuery) (hsize : 1 ≤ perPage) {number : Nat} (hnumber : 1 ≤ number) :
    (Session.perform session (Session.paginate source base perPage number)).1 = (do
      let listing ← session.store.fetch source (listingQuery base)
      let offset ← Failure.unsigned64 ((number - 1) * perPage)
      return ofRows perPage number offset listing.length
        ((listing.drop offset).take perPage)) := by
  rw [Session.paginate, Nat.max_eq_left hsize, Nat.max_eq_left hnumber]
  cases hlisting : session.store.fetch source (listingQuery base) with
  | ok listing =>
      rw [Session.perform_bind_ok (by rw [Session.perform_count, count_of_fetch hlisting])]
      cases Failure.unsigned64 ((number - 1) * perPage) with
      | error failure => rfl
      | ok offset =>
          rw [Session.perform_lift_bind_ok rfl, Session.perform_bind, Session.perform_fetch,
            Session.noting_store, fetch_query, hlisting]
          rfl
  | error failure =>
      rcases count_of_fetch_error hlisting with hcount | ⟨rfl, total, hcount⟩
      · rw [Session.perform_bind_error (by rw [Session.perform_count, hcount])]
        rfl
      · rw [Session.perform_bind_ok (by rw [Session.perform_count, hcount])]
        cases hoffset : Failure.unsigned64 ((number - 1) * perPage) with
        | error failure =>
            obtain ⟨-, rfl⟩ := Failure.unsigned64_eq_error_iff.mp hoffset
            rfl
        | ok offset =>
            rw [Session.perform_lift_bind_ok rfl, Session.perform_bind, Session.perform_fetch,
              Session.noting_store, fetch_query, hlisting]
            rfl

end Answers

/-- A page at a place of a listing, behind a number of other rows, has the numbers that belong
there. -/
structure Fits (page : ClassicPage) (perPage total place before : Nat) : Prop where
  number_eq : page.currentPage = place + 1
  total_eq : page.total = total
  last_page_eq : page.lastPage = max 1 (total ⌈/⌉ perPage)
  full : place + 1 < page.lastPage → page.data.length = perPage
  empty : page.data = [] → page.first = none ∧ page.last = none
  bounds : page.data ≠ [] → ∃ first last, page.first = some first ∧ page.last = some last ∧
    first = before + 1 ∧ last = first + page.data.length - 1 ∧ last ≤ page.total

/-- A call for a page answers with the page at its place. -/
theorem perform_paginate_place [Libraries] [LawfulLibraries] {session : Session}
    {source : EntitySource} {base : SelectQuery} (hsize : 1 ≤ perPage)
    (hlisting : session.store.fetch source (listingQuery base) = .ok listing)
    (hbound : place * perPage < 2 ^ 64) :
    (Session.perform session (Session.paginate source base perPage (place + 1))).1 =
      .ok (atPlace listing perPage place) := by
  have hoffset : Failure.unsigned64 (place * perPage) = .ok (place * perPage) :=
    Failure.unsigned64_eq_ok_iff.mpr ⟨hbound, rfl⟩
  rw [perform_paginate session source base hsize (Nat.le_add_left 1 place), hlisting,
    Nat.add_sub_cancel]
  show Failure.unsigned64 (place * perPage) >>= _ = _
  rw [hoffset]
  rfl

/-- Which rows a page says it shows. -/
theorem bounds_at_place (hrow : stretch listing perPage place ≠ []) :
    (atPlace listing perPage place).first = some (place * perPage + 1) ∧
      (atPlace listing perPage place).last =
        some (place * perPage + (stretch listing perPage place).length) := by
  have hshown : ¬(stretch listing perPage place).isEmpty = true :=
    fun hempty => hrow (List.isEmpty_iff.mp hempty)
  exact ⟨if_neg hshown, if_neg hshown⟩

theorem last_page_eq_page_count (perPage total : Nat) :
    max ((total + perPage - 1) / perPage) 1 = pageCount perPage total := by
  rw [pageCount, Nat.max_comm, Nat.ceilDiv_eq_add_pred_div]

/-- The page at a place has the numbers of that place. -/
theorem fits_at_place (hsize : 1 ≤ perPage) :
    (atPlace listing perPage place).Fits perPage listing.length place (place * perPage) := by
  have hrows := length_stretch listing perPage place
  have hcount := last_page_eq_page_count perPage listing.length
  refine ⟨rfl, rfl, hcount, fun hmore => ?_, fun hnil => ?_, fun hrow => ?_⟩
  · have hnext : (place + 1) * perPage < listing.length :=
      border_lt hsize (hcount ▸ hmore)
    rw [Nat.succ_mul] at hnext
    show (stretch listing perPage place).length = perPage
    omega
  · have hempty : (stretch listing perPage place).isEmpty = true := List.isEmpty_iff.mpr hnil
    exact ⟨if_pos hempty, if_pos hempty⟩
  · have hpos : 0 < (stretch listing perPage place).length := List.length_pos_iff.mpr hrow
    obtain ⟨hfirst, hlast⟩ := bounds_at_place hrow
    refine ⟨_, _, hfirst, hlast, rfl, ?_, ?_⟩
    · show _ = place * perPage + 1 + (stretch listing perPage place).length - 1
      omega
    · show _ ≤ listing.length
      omega

end ClassicPage

/-! ## All pages -/

/-- The pages from the first to the last one are a partition of the listing, in its order, and
each of them has the numbers that belong to its place; where the listing fails, every page fails in
the same way. A listing does not fail when its like patterns can be compiled and the values in its
ordering columns are sortable. The rows of the table are counted in 64 bits. -/
theorem classic_pages_partition [Libraries] [LawfulLibraries] (source : EntitySource)
    (base : SelectQuery) (perPage : Nat) (session : Session) (hsize : 1 ≤ perPage)
    (hcounted : (session.store.rows source.table).length < 2 ^ 64) :
    let answer (number : Nat) :=
      (Session.perform session (Session.paginate source base perPage number)).1
    let whole := session.store.fetch source { base with limit := none, offset := none }
    (∀ listing, whole = .ok listing → ∃ pages : List ClassicPage,
      (List.range' 1 (max 1 (listing.length ⌈/⌉ perPage))).map answer = pages.map .ok ∧
      pages.flatMap ClassicPage.data = listing ∧
      ∀ (place : Nat) (page : ClassicPage), pages[place]? = some page →
        page.Fits perPage listing.length place
          ((pages.take place).flatMap ClassicPage.data).length) ∧
    (∀ failure, whole = .error failure → ∀ number, 1 ≤ number → answer number = .error failure) ∧
    (Predicate.Compile base.predicates →
      (∀ term ∈ base.orders, Stored.Sortable
        ((session.store.rows source.table).map fun row => row.lookup term.field)) →
      whole = .ok ((base.arranged (base.satisfying (session.store.rows source.table))).map
        (Row.project base.columns))) := by
  intro answer whole
  refine ⟨fun listing hlisting => ?_, fun failure hfailure number hnumber => ?_,
    fun hcompile hsortable => ?_⟩
  · have hlength : listing.length < 2 ^ 64 := by
      obtain ⟨chosen, hchosen, rfl⟩ := SelectQuery.select_eq_ok_iff.mp hlisting
      rw [List.length_map]
      refine Nat.lt_of_le_of_lt hchosen.subperm.length_le (Nat.lt_of_le_of_lt ?_ hcounted)
      exact List.length_filter_le _ _
    refine ⟨ClassicPage.pages listing perPage, ?_, ClassicPage.flat_map_pages hsize listing,
      fun place page hpage => ?_⟩
    · rw [List.range'_eq_map_range, List.map_map, ClassicPage.pages, List.map_map]
      refine List.map_congr_left fun place hplace => ?_
      have hborder := ClassicPage.border_le hsize (List.mem_range.mp hplace)
      rw [Function.comp_apply, Nat.add_comm]
      exact ClassicPage.perform_paginate_place hsize hlisting (Nat.lt_of_le_of_lt hborder hlength)
    · obtain ⟨hplace, rfl⟩ := ClassicPage.page_of_get hpage
      rw [ClassicPage.flat_map_pages_before hplace, List.length_take,
        Nat.min_eq_left (ClassicPage.border_le hsize hplace)]
      exact ClassicPage.fits_at_place hsize
  · show (Session.perform session _).1 = _
    rw [ClassicPage.perform_paginate session source base hsize hnumber]
    show (whole >>= _) = _
    rw [hfailure]
    rfl
  · have hcompile' : Predicate.Compile (ClassicPage.listingQuery base).predicates := hcompile
    exact (SelectQuery.select_of_sortable hcompile' hsortable).1

open scoped Bundled in
/-- Five posts on pages of two take three pages, the last of which shows the fifth post alone. -/
theorem ranked_posts_on_three_pages :
    let session : Session := { store := postStore rankedPosts }
    ∃ first second third : ClassicPage,
      (List.range' 1 3).map (fun number =>
        (Session.perform session (Session.paginate postSource byRank 2 number)).1) =
          [.ok first, .ok second, .ok third] ∧
      session.store.fetch postSource byRank =
        .ok (first.data ++ (second.data ++ third.data)) ∧
      third.data.length = 1 ∧ third.first = some 5 ∧ third.last = some 5 := by
  intro session
  obtain ⟨hpartition, -, hwhole⟩ :=
    classic_pages_partition postSource byRank 2 session (by decide) (by decide)
  have hranks : ∀ term ∈ byRank.orders, Stored.Sortable
      (rankedPosts.map fun row => row.lookup term.field) := by
    refine List.forall_mem_singleton.mpr ?_
    exact Stored.sortable_of_ints [4, 4, 9, 1, 9]
  have hlisting := hwhole nofun hranks
  obtain ⟨pages, hanswers, hdata, hfits⟩ := hpartition _ hlisting
  have hfive : ((byRank.arranged (byRank.satisfying rankedPosts)).map
      (Row.project byRank.columns)).length = 5 := by
    rw [List.length_map, (SelectQuery.arranged_perm _ _).length_eq]
    rfl
  have hcount : max 1 (((byRank.arranged (byRank.satisfying rankedPosts)).map
      (Row.project byRank.columns)).length ⌈/⌉ 2) = 3 := by
    rw [hfive]
    decide
  change (List.range' 1 (max 1 (((byRank.arranged (byRank.satisfying rankedPosts)).map
    (Row.project byRank.columns)).length ⌈/⌉ 2))).map _ = _ at hanswers
  rw [hcount] at hanswers
  have hthree : pages.length = 3 := by simpa using (congrArg List.length hanswers).symm
  obtain ⟨first, second, third, rfl⟩ := List.length_eq_three.mp hthree
  have hfirst := hfits 0 first rfl
  have hsecond := hfits 1 second rfl
  have hthird := hfits 2 third rfl
  have hfull : first.data.length = 2 := hfirst.full (hfirst.last_page_eq.trans hcount ▸ by decide)
  have hfull' : second.data.length = 2 :=
    hsecond.full (hsecond.last_page_eq.trans hcount ▸ by decide)
  have hwhole : first.data ++ (second.data ++ third.data) = _ :=
    (congrArg _ (congrArg _ (List.append_nil third.data).symm)).trans hdata
  have hone : third.data.length = 1 := by
    have hlength := congrArg List.length hwhole
    rw [List.length_append, List.length_append, hfull, hfull'] at hlength
    have hfive' := hlength.trans hfive
    omega
  obtain ⟨start, final, hstart, hfinal, hbefore, hafter, -⟩ :=
    hthird.bounds fun hnil => by simp [hnil] at hone
  have hshown : (([first, second, third].take 2).flatMap ClassicPage.data).length = 4 := by
    simp [hfull, hfull']
  rw [hshown] at hbefore
  refine ⟨first, second, third, hanswers, hlisting.trans (congrArg Except.ok hwhole.symm), hone,
    ?_, ?_⟩
  · rw [hstart, hbefore]
  · rw [hfinal, hafter, hbefore, hone]

end EntityGate
