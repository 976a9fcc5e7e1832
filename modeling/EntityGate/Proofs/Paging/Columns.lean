import EntityGate.Paging.Page
import EntityGate.Proofs.Store.Keys

/-!
# Columns fetched for the cursors

The ordering columns that a query leaves out are fetched beside its own and taken off again. The
rows of a page are then the rows of the query itself, and its tokens record stored rows: see
`strip_project` and `boundary_fetched`, and `of_rows_fetched` for the whole page.
-/

namespace EntityGate

/-- A row under some columns has the value of the row in each of them. -/
theorem Row.get_project {columns : List String} {name : String} (h : name ∈ columns) (row : Row) :
    JsonFields.get? (row.project columns) name = some ((row.lookup name).getD .null) := by
  have hcolumns : columns.isEmpty = false := by
    cases columns with
    | nil => simp at h
    | cons first rest => rfl
  simp [Row.project, hcolumns,
    JsonFields.get_of_list_map (fun column => (row.lookup column).getD .null), h]

namespace CursorPage

variable {columns : List String} {orders : List OrderTerm}

theorem missing_columns_not_mem {name : String} (h : name ∈ missingColumns columns orders) :
    name ∉ columns := by
  induction orders generalizing columns with
  | nil => simp [missingColumns] at h
  | cons term terms ih =>
      unfold missingColumns at h
      split at h
      · exact ih h
      · rename_i hfield
        rcases List.mem_cons.mp h with rfl | h
        · simpa using hfield
        · exact fun hname => ih h (List.mem_append_left _ hname)

theorem missing_columns_nodup : (missingColumns columns orders).Nodup := by
  induction orders generalizing columns with
  | nil => simp [missingColumns]
  | cons term terms ih =>
      unfold missingColumns
      split
      · exact ih
      · exact List.nodup_cons.mpr ⟨fun h => missing_columns_not_mem h (by simp), ih⟩

theorem mem_missing_columns {term : OrderTerm} (h : term ∈ orders) :
    term.field ∈ columns ++ missingColumns columns orders := by
  induction orders generalizing columns with
  | nil => simp at h
  | cons first rest ih =>
      unfold missingColumns
      split
      · rename_i hfirst
        rcases List.mem_cons.mp h with rfl | h
        · exact List.mem_append_left _ (by simpa using hfirst)
        · exact ih h
      · rcases List.mem_cons.mp h with rfl | h
        · simp
        · have hlater := @ih (columns ++ [first.field]) h
          simpa using hlater

theorem strip_append {start fields : JsonFields} {extra : List String}
    (hextra : (fields.map Prod.fst).Perm extra)
    (hstart : ∀ name ∈ extra, name ∉ start.map Prod.fst) :
    strip extra (start ++ fields) = start := by
  -- Removing moves the last field into the hole, so the fields are known up to their order only.
  induction extra generalizing fields with
  | nil =>
      have hfields : fields = [] := by simpa using hextra.eq_nil
      simp [strip, hfields]
  | cons name names ih =>
      obtain ⟨rest, hremoved, hrest⟩ := JsonFields.swap_remove_append
        (hstart name List.mem_cons_self) (hextra.symm.subset List.mem_cons_self)
      have hnames := ih (hrest.trans hextra).cons_inv
        fun other hother => hstart other (List.mem_cons_of_mem _ hother)
      rw [← hremoved] at hnames
      exact hnames

/-- Without the columns fetched for the cursors a row is what the query asks for. -/
theorem strip_project (columns : List String) (orders : List OrderTerm) (row : Row) :
    strip (extraColumns columns orders)
      (row.project (columns ++ extraColumns columns orders)) = row.project columns := by
  unfold extraColumns
  split
  · simp [strip]
  · rename_i hcolumns
    let field (column : String) : String × Json := (column, (row.lookup column).getD .null)
    have hkeys (names : List String) : (names.map field).map Prod.fst = names := by
      simp [field, Function.comp_def]
    have hnew (name : String) (hname : name ∈ missingColumns columns orders) :
        name ∉ (JsonFields.ofList (columns.map field)).map Prod.fst := by
      rw [← JsonFields.get_eq_none_iff, JsonFields.get_of_list_map,
        if_neg (missing_columns_not_mem hname)]
    have hwhole : JsonFields.ofList ((columns ++ missingColumns columns orders).map field) =
        JsonFields.ofList (columns.map field) ++ (missingColumns columns orders).map field := by
      rw [List.map_append, JsonFields.ofList, List.foldl_append]
      refine JsonFields.foldl_insert_of_nodup _ (by rw [hkeys]; exact missing_columns_nodup) ?_
      intro added hadded
      obtain ⟨name, hname, rfl⟩ := List.mem_map.mp hadded
      exact hnew name hname
    have hcolumns' : ¬(columns ++ missingColumns columns orders).isEmpty = true := fun hempty =>
      hcolumns (by simp_all)
    rw [Row.project, if_neg hcolumns', Row.project, if_neg hcolumns]
    exact hwhole ▸ strip_append (by rw [hkeys]) hnew

/-- What a token records of a row for an ordering. Rows that are fetched under a choice of columns
have one of the name of the ordering, which holds the value at the end of the path. Whole rows are
not asked for paths. -/
def recordedValue (columns : List String) (row : Row) (field : String) : Json :=
  (if columns.isEmpty then JsonFields.get? row field else row.lookup field).getD .null

/-- What a token records of a row. -/
def recordedPosition (columns : List String) (orders : List OrderTerm) (row : Row) : List Json :=
  orders.map fun term => recordedValue columns row term.field

theorem recorded_value_of_columns (h : columns ≠ []) (row : Row) (field : String) :
    recordedValue columns row field = (row.lookup field).getD .null := by
  rw [recordedValue, if_neg (by simpa using h)]

theorem recorded_value_of_undotted {field : String} (h : Identifier.isDotted field = false)
    (columns : List String) (row : Row) :
    recordedValue columns row field = (JsonFields.get? row field).getD .null := by
  rw [recordedValue, Row.lookup_of_undotted h, ite_self]

/-- The token of a row as fetched records the row. -/
theorem boundary_fetched (columns : List String) (orders : List OrderTerm) (forward : Bool)
    (row : Row) : boundary orders forward (row.project (columns ++ extraColumns columns orders)) =
      Cursor.token ⟨recordedPosition columns orders row, forward⟩ := by
  unfold boundary recordedPosition
  refine congrArg (fun values => Cursor.token ⟨values, forward⟩) (List.map_congr_left ?_)
  intro term hterm
  unfold extraColumns recordedValue
  split
  · rename_i hcolumns
    simp [List.isEmpty_iff.mp hcolumns, Row.project]
  · rw [Row.get_project (mem_missing_columns hterm)]
    rfl

/-- The token that records a row behind a page of the query. -/
def recordToken (base : SelectQuery) (source : EntitySource) (forward : Bool) (row : Row) :
    String :=
  Cursor.token
    ⟨recordedPosition base.columns (ordersWithKey source base.orders) row, forward⟩

/-- Where no ordering is a path, a row is recorded by its own columns. -/
theorem record_token_of_undotted {base : SelectQuery} {source : EntitySource}
    (h : ∀ term ∈ ordersWithKey source base.orders, Identifier.isDotted term.field = false)
    (forward : Bool) : recordToken base source forward =
      boundary (ordersWithKey source base.orders) forward := by
  funext row
  refine congrArg (fun values => Cursor.token ⟨values, forward⟩) (List.map_congr_left ?_)
  intro term hterm
  exact recorded_value_of_undotted (h term hterm) base.columns row

/-! ## The page of the rows found -/

/-- The rows of a page among those found for it, in the order of the page. -/
def pageRows (perPage : Nat) (cursor : Option Cursor) (found : List Row) : List Row :=
  if isBackward cursor then (found.take perPage).reverse else found.take perPage

/-- A page shows the rows found for it under the columns of the query, and its tokens record the
last and the first of them. -/
theorem of_rows_fetched (base : SelectQuery) (source : EntitySource) (perPage : Nat)
    (cursor : Option Cursor) (found : List Row) :
    ofRows base source perPage cursor (found.map (Row.project
        (base.columns ++ extraColumns base.columns (ordersWithKey source base.orders)))) =
      { data := (pageRows perPage cursor found).map (Row.project base.columns)
        perPage := perPage
        next :=
          if isBackward cursor || perPage < found.length then
            (pageRows perPage cursor found).getLast?.map (recordToken base source true)
          else none
        previous :=
          if (cursor.isSome && !isBackward cursor) ||
              (isBackward cursor && perPage < found.length) then
            (pageRows perPage cursor found).head?.map (recordToken base source false)
          else none } := by
  have hrows (list : List Row) (f : Row → Row) :
      (if isBackward cursor then (list.map f).reverse else list.map f) =
        (if isBackward cursor then list.reverse else list).map f := by
    split
    · exact List.map_reverse.symm
    · rfl
  unfold ofRows
  simp only [List.length_map, ← List.map_take, hrows, List.getLast?_map, List.head?_map,
    List.map_map, Option.map_map, Function.comp_def, strip_project, boundary_fetched]
  rfl

end CursorPage

end EntityGate
