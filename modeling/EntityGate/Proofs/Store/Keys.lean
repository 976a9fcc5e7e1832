import EntityGate.Proofs.Json.Fields
import EntityGate.Proofs.Store.Comparison
import EntityGate.Proofs.Store.Selection

/-!
# One row under each key

A row is found once through a query and a second time by the key that was read off it. Where no
two rows of the table have loosely equal keys, both ways lead to the same place: see
`update_rows_at` and `delete_rows_at`.
-/

namespace EntityGate

/-! ## Columns without dots -/

theorem Text.split_chars_of_not_mem {isSeparator : Char → Bool} {chars : List Char}
    (h : ∀ char ∈ chars, isSeparator char = false) :
    Text.splitChars isSeparator chars = [chars] := by
  induction chars with
  | nil => rfl
  | cons char rest ih =>
      have hrest := ih fun other hother => h other (List.mem_cons_of_mem _ hother)
      simp [Text.splitChars, h char List.mem_cons_self, hrest]

theorem Identifier.segments_of_undotted {name : String} (h : isDotted name = false) :
    segments name = [name] := by
  have hchars : ∀ char ∈ name.toList, (char == '.') = false := by
    intro char hchar
    refine beq_eq_false_iff_ne.mpr fun hdot => ?_
    subst hdot
    simp [isDotted, hchar] at h
  simp [segments, Text.split, Text.split_chars_of_not_mem hchars]

/-- A name without dots is looked up among the columns of the row. -/
theorem Row.lookup_of_undotted {name : String} (h : Identifier.isDotted name = false)
    (row : Row) : row.lookup name = JsonFields.get? row name := by
  simp only [Row.lookup, Identifier.segments_of_undotted h]
  cases JsonFields.get? row name <;> rfl

/-! ## Finding by a key -/

/-- The row that a key finds within a scope satisfies the scope and compares equal to the key. -/
theorem Store.find_sound [Libraries] [LawfulLibraries] {store : Store} {source : EntitySource}
    {query : SelectQuery} {id : String} {found : List Row} {row : Row}
    (hkey : Identifier.isDotted source.primaryKey = false) (hcolumns : query.columns = [])
    (hfound : store.fetch source (query.byKey source (.string id)) = .ok found)
    (h : found.head? = some row) :
    row ∈ store.rows source.table ∧ Predicate.holdsAll row query.predicates = true ∧
      ∃ key, JsonFields.get? row source.primaryKey = some key ∧
        Stored.compare? key (.string id) = some .eq := by
  have hwhole : (query.byKey source (.string id)).columns = [] := hcolumns
  obtain ⟨hmem, hholds⟩ := SelectQuery.mem_of_mem_select hwhole hfound (List.mem_of_head? h)
  simp only [SelectQuery.byKey, SelectQuery.firstOnly, SelectQuery.addPredicate,
    Predicate.holds_all_append, Bool.and_eq_true] at hholds
  obtain ⟨hscope, hcompare⟩ := hholds
  refine ⟨hmem, hscope, ?_⟩
  simp only [Predicate.holdsAll, Predicate.holds, Row.lookup_of_undotted hkey,
    Bool.and_true] at hcompare
  have hcoerce : ValueKind.text.coerce (.string id) = .string id := rfl
  rw [hcoerce] at hcompare
  cases hget : JsonFields.get? row source.primaryKey with
  | none => simp [hget, Predicate.compares] at hcompare
  | some key =>
      refine ⟨key, rfl, ?_⟩
      rw [hget] at hcompare
      simp only [Predicate.compares] at hcompare
      split at hcompare
      · rename_i order horder
        rw [horder, beq_iff_eq.mp hcompare]
      · simp at hcompare

namespace Table

variable {keyColumn : String} {before rest : List Row} {row : Row} {key : Json}

/-- No two rows have loosely equal keys. -/
def KeysDistinct (keyColumn : String) (rows : List Row) : Prop :=
  rows.Pairwise fun left right => ∀ leftKey rightKey,
    JsonFields.get? left keyColumn = some leftKey →
    JsonFields.get? right keyColumn = some rightKey →
    Stored.looseEq leftKey rightKey = false ∧ Stored.looseEq rightKey leftKey = false

theorem has_key_of_get {value : Json} (h : JsonFields.get? row keyColumn = some value) :
    hasKey keyColumn key row = Stored.looseEq value key := by
  simp [hasKey, h]

/-- The key that a row holds is no key of any other row. -/
theorem KeysDistinct.has_key_eq_false (hdistinct : KeysDistinct keyColumn (before ++ row :: rest))
    (hkey : JsonFields.get? row keyColumn = some key) :
    ∀ other ∈ before ++ rest, hasKey keyColumn key other = false := by
  have hmoved : KeysDistinct keyColumn (row :: (before ++ rest)) := by
    refine List.Pairwise.perm hdistinct List.perm_middle ?_
    intro left right h leftKey rightKey hleft hright
    exact (h rightKey leftKey hright hleft).symm
  intro other hother
  cases hget : JsonFields.get? other keyColumn with
  | none => simp [hasKey, hget]
  | some value =>
      rw [has_key_of_get hget]
      exact (List.rel_of_pairwise_cons hmoved hother key value hkey hget).2

/-! ## Changes by the key of a row -/

theorem update_rows_append (attributes : JsonFields)
    (h : ∀ other ∈ before, hasKey keyColumn key other = false) (rows : List Row) :
    updateRows keyColumn key attributes (before ++ rows) =
      (updateRows keyColumn key attributes rows).map fun result =>
        (before ++ result.1, result.2) := by
  induction before with
  | nil => simp
  | cons first others ih =>
      have hothers := ih fun other hother => h other (List.mem_cons_of_mem _ hother)
      simp only [List.cons_append, updateRows, h first List.mem_cons_self, hothers, Option.map_map]
      rfl

/-- An update by the key of a row changes that row, in its place. -/
theorem update_rows_at (attributes : JsonFields)
    (hdistinct : KeysDistinct keyColumn (before ++ row :: rest))
    (hkey : JsonFields.get? row keyColumn = some key) (hself : Stored.looseEq key key = true) :
    updateRows keyColumn key attributes (before ++ row :: rest) =
      some (before ++ setAttributes keyColumn attributes row :: rest,
        setAttributes keyColumn attributes row) := by
  have hothers := hdistinct.has_key_eq_false hkey
  rw [update_rows_append attributes
    fun other hother => hothers other (List.mem_append_left _ hother)]
  simp [updateRows, has_key_of_get hkey, hself]

/-- A deletion by the key of a row removes that row and keeps all others. -/
theorem delete_rows_at (hdistinct : KeysDistinct keyColumn (before ++ row :: rest))
    (hkey : JsonFields.get? row keyColumn = some key) (hself : Stored.looseEq key key = true) :
    ((before ++ row :: rest).filter fun other => !hasKey keyColumn key other) =
      before ++ rest := by
  have hothers := hdistinct.has_key_eq_false hkey
  have hbefore : before.filter (fun other => !hasKey keyColumn key other) = before :=
    List.filter_eq_self.mpr fun other hother => by
      simp [hothers other (List.mem_append_left _ hother)]
  have hrest : rest.filter (fun other => !hasKey keyColumn key other) = rest :=
    List.filter_eq_self.mpr fun other hother => by
      simp [hothers other (List.mem_append_right _ hother)]
  simp [has_key_of_get hkey, hself, hbefore, hrest]

/-- An update sets the attributes and nothing else, and the key stays. -/
theorem get_set_attributes (attributes : JsonFields) (name : String) :
    JsonFields.get? (setAttributes keyColumn attributes row) name =
      if name = keyColumn then JsonFields.get? row name
      else (JsonFields.get? (JsonFields.ofList attributes) name).or (JsonFields.get? row name) := by
  unfold setAttributes
  rw [JsonFields.get_foldl_insert, JsonFields.get_of_list_filter]
  by_cases hname : name = keyColumn <;> simp [hname]

/-! ## Appending a row -/

/-- The next key is the next number, short of the last signed integer. -/
theorem next_key_of_lt {key : Int} (hlow : -(2 ^ 63) ≤ key) (hhigh : key < 2 ^ 63 - 1) :
    nextKey key = .ok (key + 1) :=
  if_pos ⟨by omega, by omega⟩

/-- A row is appended with the key it has, and otherwise with the next number of its table. -/
theorem append_rows {table after : Table} {stored : Row}
    (h : table.append keyColumn row = .ok (after, stored)) :
    after.rows = table.rows ++
      [if (JsonFields.get? row keyColumn).isSome then row
        else row ++ [(keyColumn, Json.ofInt (table.lastKey + 1))]] := by
  obtain ⟨⟨kept, last⟩, hkept, h⟩ := except_bind_eq_ok h
  cases h
  refine congrArg (fun row => table.rows ++ [row]) (show stored = _ from ?_)
  unfold withKey at hkept
  cases hkey : JsonFields.get? row keyColumn with
  | none =>
      rw [hkey] at hkept
      obtain ⟨next, hnext, hkept⟩ := except_bind_eq_ok hkept
      obtain ⟨-, rfl⟩ := Failure.signed64_eq_ok_iff.mp hnext
      cases hkept
      exact JsonFields.insert_of_get_none _ hkey
  | some value =>
      rw [hkey] at hkept
      dsimp only at hkept
      split at hkept <;> cases hkept <;> rfl

end Table

end EntityGate
