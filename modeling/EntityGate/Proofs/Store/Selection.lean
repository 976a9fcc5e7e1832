import EntityGate.Proofs.Store.Tests
import Mathlib.Data.List.Perm.Subperm

/-!
# What a query selects

A query that answers has found the rows that its predicates are true of, sorted them in some way and
kept those in its window: see `SelectQuery.select_eq_ok_iff`. It answers with the stable arrangement
when its like patterns can be compiled and its orderings preorder the rows it finds: see
`SelectQuery.select_of_trans_cmp`.
-/

namespace EntityGate

namespace SelectQuery

/-- The rows that the predicates are true of. -/
def satisfying (query : SelectQuery) (rows : List Row) : List Row :=
  rows.filter fun row => Predicate.holdsAll row query.predicates

/-- The rows sorted by the orderings; rows that compare equal keep their order. -/
def arranged (query : SelectQuery) (rows : List Row) : List Row :=
  if query.orders.isEmpty then rows
  else rows.mergeSort fun left right => compareRows query.orders left right != .gt

variable {query other : SelectQuery} {rows found sorted : List Row} {row : Row}

theorem arranged_perm (query : SelectQuery) (rows : List Row) :
    (query.arranged rows).Perm rows := by
  unfold arranged
  split
  · exact .refl rows
  · exact List.mergeSort_perm rows _

theorem arranged_congr (h : query.orders = other.orders) (rows : List Row) :
    query.arranged rows = other.arranged rows := by
  unfold arranged
  rw [h]

/-- A window shows rows in their order. -/
theorem window_sublist (query : SelectQuery) (rows : List Row) :
    (query.window rows).Sublist rows := by
  unfold window
  split
  · exact (List.take_sublist _ _).trans (List.drop_sublist _ _)
  · exact List.drop_sublist _ _

variable [Libraries]

/-! ## Finding -/

theorem matching_cons : query.matching (row :: rows) = (do
    let found ← Predicate.testAll row query.predicates
    let others ← query.matching rows
    return if found then row :: others else others) := by
  rw [matching]

/-- What is found depends on the predicates only. -/
theorem matching_congr (h : query.predicates = other.predicates) (rows : List Row) :
    query.matching rows = other.matching rows := by
  induction rows with
  | nil => rfl
  | cons row rows ih => rw [matching_cons, matching_cons, h, ih]

omit [Libraries] in
theorem satisfying_cons : query.satisfying (row :: rows) =
    if Predicate.holdsAll row query.predicates then row :: query.satisfying rows
    else query.satisfying rows :=
  List.filter_cons

/-- The rows found are those that the predicates are true of. -/
theorem matching_eq [LawfulLibraries] (h : query.matching rows = .ok found) :
    found = query.satisfying rows := by
  induction rows generalizing found with
  | nil => exact (Except.ok.inj h).symm
  | cons row rows ih =>
      rw [matching_cons] at h
      obtain ⟨answer, hanswer, h⟩ := except_bind_eq_ok h
      obtain ⟨others, hothers, h⟩ := except_bind_eq_ok h
      rw [← Except.ok.inj h, satisfying_cons, Predicate.holds_of_test_all hanswer, ih hothers]

/-- With like patterns that can be compiled all rows that the predicates are true of are found. -/
theorem matching_of_compile [LawfulLibraries] (h : Predicate.Compile query.predicates)
    (rows : List Row) : query.matching rows = .ok (query.satisfying rows) := by
  induction rows with
  | nil => rfl
  | cons row rows ih =>
      rw [matching_cons, Predicate.test_all_of_compile h, ih, satisfying_cons]
      rfl

/-- A query with more predicates fails as the query without them, as long as the like patterns in
these can be compiled. -/
theorem matching_of_more [LawfulLibraries] {added : List Predicate}
    (h : other.predicates = query.predicates ++ added) (hadded : Predicate.Compile added)
    (rows : List Row) :
    other.matching rows = (query.matching rows).map fun _ => other.satisfying rows := by
  induction rows with
  | nil => rfl
  | cons row rows ih =>
      have htest : Predicate.testAll row other.predicates =
          (Predicate.testAll row query.predicates).map
            fun _ => Predicate.holdsAll row other.predicates := by
        rw [h, Predicate.test_all_append]
        cases hfirst : Predicate.testAll row query.predicates with
        | error error => rfl
        | ok answer =>
            rw [Predicate.holds_all_append, Predicate.holds_of_test_all hfirst]
            cases answer with
            | false => rfl
            | true => exact Predicate.test_all_of_compile hadded row
      rw [matching_cons, matching_cons, htest, ih, satisfying_cons]
      cases Predicate.testAll row query.predicates with
      | error error => rfl
      | ok answer => cases query.matching rows <;> rfl

/-! ## Sorting -/

theorem sorted_congr (h : query.orders = other.orders) (rows : List Row) :
    query.sorted rows = other.sorted rows := by
  unfold sorted
  rw [h]

theorem sorted_perm [LawfulLibraries] (h : query.sorted rows = .ok sorted) :
    sorted.Perm rows := by
  unfold SelectQuery.sorted at h
  split at h
  · exact Except.ok.inj h ▸ .refl rows
  · split at h
    · next found hfound => exact Except.ok.inj h ▸ LawfulLibraries.sort_perm hfound
    · cases h

theorem eq_aborted_of_sorted {failure : Failure} (h : query.sorted rows = .error failure) :
    failure = .aborted := by
  unfold SelectQuery.sorted at h
  split at h
  · cases h
  · split at h
    · cases h
    · exact (Except.error.inj h).symm

/-- Rows that the orderings preorder are arranged by them. -/
theorem sorted_of_trans_cmp [LawfulLibraries]
    (h : Std.TransCmp fun left right : {row // row ∈ rows} =>
      compareRows query.orders left.1 right.1) :
    query.sorted rows = .ok (query.arranged rows) := by
  unfold SelectQuery.sorted arranged
  split
  · rfl
  · rw [LawfulLibraries.sort_of_trans_cmp h]

/-! ## Selecting -/

/-- The stored rows that a query selects: it has found and sorted rows, and these are in its
window. -/
def Selects (query : SelectQuery) (rows chosen : List Row) : Prop :=
  ∃ matched sorted, query.matching rows = .ok matched ∧ query.sorted matched = .ok sorted ∧
    query.window sorted = chosen

theorem select_eq_ok_iff : query.select rows = .ok found ↔
    ∃ chosen, query.Selects rows chosen ∧ chosen.map (Row.project query.columns) = found := by
  constructor
  · intro h
    obtain ⟨matched, hmatched, h⟩ := except_bind_eq_ok h
    obtain ⟨sorted, hsorted, h⟩ := except_bind_eq_ok h
    exact ⟨query.window sorted, ⟨matched, sorted, Failure.reporting_eq_ok_iff.mp hmatched, hsorted,
      rfl⟩, Except.ok.inj h⟩
  · rintro ⟨_, ⟨matched, sorted, hmatched, hsorted, rfl⟩, rfl⟩
    rw [select, hmatched]
    show query.sorted matched >>= _ = _
    rw [hsorted]
    rfl

/-- What is selected are rows that the predicates are true of, each no more often than it is
stored. -/
theorem Selects.subperm [LawfulLibraries] {chosen : List Row} (h : query.Selects rows chosen) :
    chosen.Subperm (query.satisfying rows) := by
  obtain ⟨matched, sorted, hmatched, hsorted, rfl⟩ := h
  rw [← matching_eq hmatched]
  exact (query.window_sublist sorted).subperm.trans (sorted_perm hsorted).subperm

/-- Where the orderings preorder the rows that are found, nothing fails behind the search for
them. -/
theorem select_eq_of_trans_cmp [LawfulLibraries]
    (h : Std.TransCmp fun left right : {row // row ∈ query.satisfying rows} =>
      compareRows query.orders left.1 right.1) :
    query.select rows = (Failure.reporting (query.matching rows)).map fun _ =>
      (query.window (query.arranged (query.satisfying rows))).map (Row.project query.columns) := by
  unfold select
  cases hmatched : query.matching rows with
  | error error => rfl
  | ok matched =>
      obtain rfl := matching_eq hmatched
      show query.sorted _ >>= _ = _
      rw [sorted_of_trans_cmp h]
      rfl

/-- What a query selects where nothing fails. -/
theorem select_of_trans_cmp [LawfulLibraries] (hcompile : Predicate.Compile query.predicates)
    (h : Std.TransCmp fun left right : {row // row ∈ query.satisfying rows} =>
      compareRows query.orders left.1 right.1) :
    query.select rows = .ok ((query.window (query.arranged (query.satisfying rows))).map
      (Row.project query.columns)) := by
  rw [select_eq_of_trans_cmp h, matching_of_compile hcompile]
  rfl

/-- What is selected without a choice of columns are rows that satisfy the predicates. -/
theorem mem_of_mem_select [LawfulLibraries] (hcolumns : query.columns = [])
    (h : query.select rows = .ok found) (hrow : row ∈ found) :
    row ∈ rows ∧ Predicate.holdsAll row query.predicates = true := by
  obtain ⟨chosen, hchosen, rfl⟩ := select_eq_ok_iff.mp h
  obtain ⟨stored, hstored, rfl⟩ := List.mem_map.mp hrow
  have hproject : Row.project query.columns stored = stored := by simp [Row.project, hcolumns]
  rw [hproject]
  exact List.mem_filter.mp (hchosen.subperm.subset hstored)

end SelectQuery

end EntityGate
