import EntityGate.Proofs.Gate.Versions
import EntityGate.Proofs.Listing.Scope

/-!
# The columns of a listing

The rows of a listing have the safe columns of the selection of the gate, no more and no fewer, as
long as there is a safe one. A selection without a safe name goes to the store as an empty list of
columns, which stands for all of them, so that whole rows come back. Read `listing_columns`.
-/

namespace EntityGate

open Session (perform)

/-- The columns of a row under a choice of columns are those that were chosen. -/
theorem Row.mem_keys_project {columns : List String} (hcolumns : columns ≠ []) (row : Row)
    (name : String) : name ∈ (row.project columns).map Prod.fst ↔ name ∈ columns := by
  have hget : JsonFields.get? (row.project columns) name = none ↔ name ∉ columns := by
    rw [Row.project, if_neg (by simpa using hcolumns), JsonFields.get_of_list_map]
    split <;> simp [*]
  rw [JsonFields.get_eq_none_iff] at hget
  exact Decidable.not_iff_not.mp hget

theorem SelectQuery.steps_columns (query : SelectQuery) {list : List QueryStep}
    (h : ∀ step ∈ list, ∀ columns, step ≠ .setColumns columns) :
    (query.steps list).columns = query.columns := by
  unfold steps
  induction list generalizing query with
  | nil => rfl
  | cons first rest ih =>
      rw [List.foldl_cons, ih _ fun step hstep => h step (List.mem_cons_of_mem _ hstep)]
      cases first with
      | addPredicate predicate => rfl
      | addOrder field direction => rfl
      | setColumns columns => exact absurd rfl (h _ List.mem_cons_self columns)

namespace GateVersion

variable {gate : GateVersion} {validate : InputValidator} {request : Request}
  {query : SelectQuery}

/-- The custom filters build predicates and orderings and leave the choice of columns alone. -/
def LeavesColumns (gate : GateVersion) : Prop :=
  ∀ field custom, gate.customFilters.find? field = some custom →
    ∀ instruction, ∀ step ∈ custom instruction, ∀ columns, step ≠ .setColumns columns

/-- No filter of a request chooses columns. -/
theorem filter_steps_columns (hcustom : gate.LeavesColumns) (instruction : FilterInstruction) :
    ∀ step ∈ gate.filterSteps instruction, ∀ columns, step ≠ .setColumns columns := by
  unfold filterSteps
  split
  · rename_i custom hfound
    exact hcustom _ custom hfound instruction
  · intro step hstep
    obtain ⟨predicate, -, rfl⟩ := Option.map_eq_some_iff.mp (Option.mem_toList.mp hstep)
    exact nofun

/-- The columns of a listing are those of the gate. -/
theorem listing_query_columns (hbase : gate.baseQuery = none) (hcustom : gate.LeavesColumns)
    (h : gate.listingQuery validate request = .ok query) : query.columns = gate.columns := by
  obtain ⟨instructions, -, hquery⟩ := except_bind_eq_ok h
  obtain rfl := Except.ok.inj hquery
  rw [SelectQuery.foldl_add_order]
  show (gate.filtered request instructions).columns = gate.columns
  unfold filtered
  rw [SelectQuery.steps_columns, scope, scopedFrom, hbase]
  intro step hstep
  obtain ⟨instruction, -, hstep⟩ := List.mem_flatMap.mp hstep
  exact filter_steps_columns hcustom instruction step hstep

/-- The rows of a listing have the safe columns of the selection when there is one, and they are
whole stored rows when there is none. -/
theorem listing_columns [Libraries] [LawfulLibraries] (gate : GateVersion)
    (validate : InputValidator) (defaults : PaginationDefaults) (request : Request)
    (session : Session) (hbase : gate.baseQuery = none) (hcustom : gate.LeavesColumns)
    {page : PageResult}
    (answered : (perform session (gate.list validate defaults request)).1 = .ok page) :
    ((∃ name ∈ gate.select, Identifier.isSafe name = true) →
      ∀ row ∈ page.rows, ∀ name,
        name ∈ row.map Prod.fst ↔ name ∈ gate.select ∧ Identifier.isSafe name = true) ∧
    ((∀ name ∈ gate.select, Identifier.isSafe name = false) →
      ∀ row ∈ page.rows, row ∈ session.store.rows gate.source.table) := by
  obtain ⟨query, hquery, ⟨shown, hshown, hrows⟩, -⟩ := list_shows answered
  rw [listing_query_columns hbase hcustom hquery] at hrows
  have hselected (name : String) :
      name ∈ gate.columns ↔ name ∈ gate.select ∧ Identifier.isSafe name = true :=
    List.mem_filter
  rw [hrows]
  constructor
  · rintro ⟨safe, hsafe⟩ row hrow name
    obtain ⟨stored, -, rfl⟩ := List.mem_map.mp hrow
    rw [Row.mem_keys_project (List.ne_nil_of_mem ((hselected safe).mpr hsafe)), hselected]
  · intro hrefused row hrow
    have hnone : gate.columns = [] := by
      refine List.filter_eq_nil_iff.mpr fun name hname => ?_
      rw [hrefused name hname]
      exact Bool.false_ne_true
    obtain ⟨stored, hstored, rfl⟩ := List.mem_map.mp hrow
    rw [hnone]
    exact (List.mem_filter.mp (hshown.subset hstored)).1

/-- A gate that selects the titles of its posts and a name that no column can have. -/
def titleGate : GateVersion :=
  { postGate with
    select := ["title", "full name"]
    customFilters := .ofList [("title", fun _ => [.addPredicate (.isNull "title" false)])] }

/-- A request for posts that goes through the custom filter. -/
def titleRequest : Request := { filters := .push .empty "title" "eq" (.string "x") }

open scoped Bundled in
/-- Posts that are filtered by title have a title each and nothing else. -/
theorem listing_columns_of_titles :
    ∃ page, (perform postSession (titleGate.list Validator.validate {} titleRequest)).1 =
        .ok (.classic page) ∧
      page.data.length = 1 ∧
      ∀ row ∈ page.data, ∀ name, name ∈ row.map Prod.fst ↔
        name ∈ titleGate.select ∧ Identifier.isSafe name = true := by
  have hcustom : titleGate.LeavesColumns := by
    intro field custom hfound instruction step hstep columns
    obtain ⟨rfl, rfl⟩ := Prod.mk.inj (List.mem_singleton.mp (mem_of_lookup hfound))
    rw [List.mem_singleton.mp hstep]
    exact nofun
  let page : ClassicPage := ⟨[[("title", .null)]], 1, 15, 1, 1, some 1, some 1⟩
  have hpage : (perform postSession (titleGate.list Validator.validate {} titleRequest)).1 =
      .ok (.classic page) := by
    rfl
  obtain ⟨hselected, -⟩ :=
    listing_columns titleGate Validator.validate {} titleRequest postSession rfl hcustom hpage
  exact ⟨page, hpage, rfl, hselected ⟨"title", List.mem_cons_self, by rfl⟩⟩

/-- The declaration of a gate whose selection has no safe name. -/
def nameDraft : GateDraft where
  entity := "Post"
  table := some "posts"
  overlay := { select := some ["full name"] }
  pagination := some .unpaged

/-- The version of that gate. -/
def nameVersion : GateVersion :=
  { postGate with
    select := ["full name"]
    pagination := .unpaged
    cache := none
    actions := [] }

open scoped Bundled in
/-- A selection without a safe name shows columns that it does not name. -/
theorem unsafe_selection_shows_all :
    let session : Session := { store := ⟨[("posts", { rows := [[("secret", .string "x")]] })]⟩ }
    ∃ gate page, nameDraft.build = .ok gate ∧ gate.Offers nameVersion ∧
      nameVersion.select ≠ [] ∧ nameVersion.baseQuery = none ∧ nameVersion.LeavesColumns ∧
      (perform session (nameVersion.list Validator.validate {} {})).1 = .ok page ∧
      ∃ row ∈ page.rows, ∃ name ∈ row.map Prod.fst, name ∉ nameVersion.select := by
  intro session
  have hpage : (perform session (nameVersion.list Validator.validate {} {})).1 =
      .ok (.unpaged [[("secret", .string "x")]]) := by
    rfl
  refine ⟨_, _, rfl, ⟨none, rfl⟩, List.cons_ne_nil _ _, rfl, nofun, hpage, ?_⟩
  exact ⟨_, List.mem_cons_self, "secret", List.mem_cons_self, by decide⟩

end GateVersion

end EntityGate
