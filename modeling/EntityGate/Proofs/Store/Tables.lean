import EntityGate.Store.Basic

/-!
# What a write does to the tables of a store

A write replaces one table and leaves all others. An insertion appends one row; an update that
finds no row and a deletion that finds none leave the store as it is.
-/

namespace EntityGate

namespace Store

/-! ## One table replaced -/

theorem lookup_set_entry_self (name : String) (table : Table) (tables : List (String × Table)) :
    (setEntry name table tables).lookup name = some table := by
  induction tables with
  | nil => simp [setEntry]
  | cons entry rest ih =>
      obtain ⟨other, old⟩ := entry
      by_cases h : other = name
      · simp [setEntry, h]
      · have hname : (name == other) = false := by simpa using Ne.symm h
        simp [setEntry, h, List.lookup_cons, hname, ih]

theorem lookup_set_entry_of_ne {name other : String} (h : other ≠ name) (table : Table)
    (tables : List (String × Table)) :
    (setEntry name table tables).lookup other = tables.lookup other := by
  induction tables with
  | nil => simp [setEntry, List.lookup_cons, beq_eq_false_iff_ne.mpr h]
  | cons entry rest ih =>
      obtain ⟨first, old⟩ := entry
      by_cases hfirst : first = name
      · have hother : (other == first) = false := by simpa [hfirst] using h
        simp [setEntry, hfirst, List.lookup_cons, hfirst ▸ hother]
      · simp [setEntry, hfirst, List.lookup_cons, ih]

@[simp] theorem table_set_table (store : Store) (name : String) (table : Table) :
    (store.setTable name table).table name = table := by
  simp [Store.table, setTable, lookup_set_entry_self]

theorem table_set_table_of_ne {name other : String} (h : other ≠ name) (store : Store)
    (table : Table) : (store.setTable name table).table other = store.table other := by
  simp [Store.table, setTable, lookup_set_entry_of_ne h]

/-! ## Insertion -/

theorem insert_eq_ok_iff {store after : Store} {source : EntitySource} {attributes : JsonFields}
    {row : Row} : store.insert source attributes = .ok (after, row) ↔
      ∃ table, (store.table source.table).append source.primaryKey attributes = .ok (table, row) ∧
        store.setTable source.table table = after := by
  rw [insert]
  cases (store.table source.table).append source.primaryKey attributes with
  | error failure => exact ⟨nofun, nofun⟩
  | ok result =>
      obtain ⟨table, stored⟩ := result
      constructor
      · intro h
        cases h
        exact ⟨table, rfl, rfl⟩
      · rintro ⟨_, h, rfl⟩
        cases h
        rfl

theorem insert_table_of_ne {store after : Store} {source : EntitySource} {attributes : JsonFields}
    {row : Row} (h : store.insert source attributes = .ok (after, row)) {other : String}
    (hother : other ≠ source.table) : after.table other = store.table other := by
  obtain ⟨table, -, rfl⟩ := insert_eq_ok_iff.mp h
  exact table_set_table_of_ne hother _ _

/-! ## Update -/

/-- An update that finds a row replaces the rows of its table and keeps the numbering. -/
theorem update_of_some {store : Store} {source : EntitySource} {key : Json}
    {attributes : JsonFields} {rows : List Row} {row : Row}
    (h : Table.updateRows source.primaryKey key attributes (store.rows source.table) =
      some (rows, row)) :
    store.update source key attributes =
      (store.setTable source.table { store.table source.table with rows := rows }, some row) := by
  simp only [Store.rows] at h
  simp only [update, h]

/-- An update that finds no row is no update. -/
theorem update_of_none {store : Store} {source : EntitySource} {key : Json}
    {attributes : JsonFields}
    (h : Table.updateRows source.primaryKey key attributes (store.rows source.table) = none) :
    store.update source key attributes = (store, none) := by
  simp only [Store.rows] at h
  simp only [update, h]

theorem update_eq_self {store : Store} {source : EntitySource} {key : Json}
    {attributes : JsonFields} (h : (store.update source key attributes).2 = none) :
    (store.update source key attributes).1 = store := by
  rcases hrows : Table.updateRows source.primaryKey key attributes (store.rows source.table) with
    _ | ⟨rows, row⟩
  · rw [update_of_none hrows]
  · simp [update_of_some hrows] at h

theorem update_table_of_ne (store : Store) {source : EntitySource} (key : Json)
    (attributes : JsonFields) {other : String} (h : other ≠ source.table) :
    (store.update source key attributes).1.table other = store.table other := by
  rcases hrows : Table.updateRows source.primaryKey key attributes (store.rows source.table) with
    _ | ⟨rows, row⟩
  · rw [update_of_none hrows]
  · rw [update_of_some hrows]
    exact table_set_table_of_ne h _ _

/-! ## Deletion -/

theorem delete_rows (store : Store) (source : EntitySource) (key : Json) :
    (store.delete source key).1.rows source.table =
      (store.rows source.table).filter fun row => !Table.hasKey source.primaryKey key row := by
  simp only [delete, Store.rows]
  split
  · rw [table_set_table]
  · rename_i hlength
    refine (List.filter_eq_self.mpr fun row hrow => ?_).symm
    exact List.length_filter_eq_length_iff.mp
      (Nat.le_antisymm (List.length_filter_le _ _) (Nat.le_of_not_lt hlength)) row hrow

/-- A deletion keeps the numbering. -/
theorem last_key_delete (store : Store) (source : EntitySource) (key : Json) :
    ((store.delete source key).1.table source.table).lastKey =
      (store.table source.table).lastKey := by
  simp only [delete]
  split
  · rw [table_set_table]
  · rfl

theorem delete_table_of_ne (store : Store) {source : EntitySource} (key : Json)
    {other : String} (h : other ≠ source.table) :
    (store.delete source key).1.table other = store.table other := by
  simp only [delete]
  split
  · exact table_set_table_of_ne h _ _
  · rfl

end Store

end EntityGate
