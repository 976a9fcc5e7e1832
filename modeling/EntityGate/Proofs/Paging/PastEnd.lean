import EntityGate.Proofs.Paging.Partition

/-!
# Pages past the end

A page whose number is greater than that of the last one shows nothing, as long as the number of the
rows before it stays within 64 bits. Otherwise the call is aborted: see `past_end_page_empty_iff`,
and `distant_page_aborts` for a page that is asked for in this way.
-/

namespace EntityGate

namespace ClassicPage

/-- The page has no rows and says so. -/
def ShowsNothing (page : ClassicPage) : Prop :=
  page.data = [] ∧ page.first = none ∧ page.last = none

/-- A page without rows shows nothing. -/
theorem of_rows_nil (perPage number offset total : Nat) :
    (ofRows perPage number offset total []).ShowsNothing :=
  ⟨rfl, rfl, rfl⟩

/-- A page behind the last one starts at the end of the listing or behind it. -/
theorem total_le_border {perPage total number : Nat} (hsize : 1 ≤ perPage)
    (hbehind : pageCount perPage total < number) : total ≤ (number - 1) * perPage :=
  calc total ≤ pageCount perPage total * perPage := total_le_page_count hsize total
    _ ≤ (number - 1) * perPage := Nat.mul_le_mul_right _ (Nat.le_sub_one_of_lt hbehind)

end ClassicPage

/-- A call for a page behind the last one of a listing answers with an empty page of this number
exactly if the number of the rows that would stand before it, computed in 64 bits, stays there.
Otherwise it is aborted. -/
theorem past_end_page_empty_iff [Libraries] [LawfulLibraries] (source : EntitySource)
    (base : SelectQuery) (perPage number : Nat) (session : Session) (hsize : 1 ≤ perPage)
    {listing : List Row}
    (hlisting : session.store.fetch source { base with limit := none, offset := none } =
      .ok listing)
    (hbehind : max 1 (listing.length ⌈/⌉ perPage) < number) :
    let answer := (Session.perform session (Session.paginate source base perPage number)).1
    ((∃ page, answer = .ok page ∧ page.total = listing.length ∧
        page.lastPage = max 1 (listing.length ⌈/⌉ perPage) ∧ page.currentPage = number ∧
        page.ShowsNothing) ↔
      (number - 1) * perPage < 2 ^ 64) ∧
    (2 ^ 64 ≤ (number - 1) * perPage → answer = .error .aborted) := by
  intro answer
  have hnumber : 1 ≤ number := Nat.le_trans (Nat.le_max_left 1 _) (Nat.le_of_lt hbehind)
  have hanswer : answer = (Failure.unsigned64 ((number - 1) * perPage)).map fun offset =>
      ClassicPage.ofRows perPage number offset listing.length
        ((listing.drop offset).take perPage) := by
    show (Session.perform session _).1 = _
    rw [ClassicPage.perform_paginate session source base hsize hnumber]
    show session.store.fetch source { base with limit := none, offset := none } >>= _ = _
    rw [hlisting]
    show Failure.unsigned64 ((number - 1) * perPage) >>= _ = _
    cases Failure.unsigned64 ((number - 1) * perPage) <;> rfl
  have haborted (hbound : 2 ^ 64 ≤ (number - 1) * perPage) : answer = .error .aborted := by
    rw [hanswer, Failure.unsigned64_eq_error_iff.mpr ⟨hbound, rfl⟩]
    rfl
  refine ⟨⟨fun ⟨page, hpage, _⟩ => ?_, fun hbound => ?_⟩, haborted⟩
  · by_contra hlarge
    rw [haborted (Nat.not_lt.mp hlarge)] at hpage
    cases hpage
  · have hnothing : (listing.drop ((number - 1) * perPage)).take perPage = [] := by
      rw [List.drop_eq_nil_of_le (ClassicPage.total_le_border hsize hbehind), List.take_nil]
    rw [Failure.unsigned64_eq_ok_iff.mpr ⟨hbound, rfl⟩] at hanswer
    refine ⟨_, hanswer, rfl, ClassicPage.last_page_eq_page_count perPage listing.length, rfl, ?_⟩
    show (ClassicPage.ofRows perPage number _ listing.length _).ShowsNothing
    rw [hnothing]
    exact ClassicPage.of_rows_nil _ _ _ _

/-- A table of three posts. -/
def threePosts : List Row := [1, 2, 3].map fun id => [("id", Json.ofInt id)]

open scoped Bundled

/-- Three posts on pages of two take two pages, and the ninth page shows nothing. -/
theorem ninth_page_shows_nothing :
    ∃ page, (Session.perform { store := postStore threePosts }
        (Session.paginate postSource {} 2 9)).1 = .ok page ∧
      page.lastPage = 2 ∧ page.currentPage = 9 ∧ page.ShowsNothing := by
  obtain ⟨page, hanswer, -, hlast, hnumber, hnothing⟩ :=
    (past_end_page_empty_iff postSource {} 2 9 { store := postStore threePosts } (by decide) rfl
      (by decide)).1.mpr (by decide)
  exact ⟨page, hanswer, hlast.trans (by decide), hnumber, hnothing⟩

/-- With two posts on a page, `2 ^ 63` pages hold `2 ^ 64` posts, which is more than 64 bits count.
The page after them is behind the last one, the second, and the call for it is aborted. -/
theorem distant_page_aborts :
    (∃ page, (Session.perform { store := postStore threePosts }
        (Session.paginate postSource {} 2 1)).1 = .ok page ∧ page.lastPage = 2) ∧
      (2 : Nat) < 2 ^ 63 + 1 ∧
      (Session.perform { store := postStore threePosts }
        (Session.paginate postSource {} 2 (2 ^ 63 + 1))).1 = .error .aborted := by
  refine ⟨⟨_, rfl, rfl⟩, by decide, ?_⟩
  exact ClassicPage.perform_paginate _ postSource {} (by decide) (by decide)

end EntityGate
