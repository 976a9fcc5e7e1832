import EntityGate.Proofs.Number.Integers
import EntityGate.Proofs.Store.Ordering
import EntityGate.Proofs.Store.Tables

/-!
# Automatic keys

A table numbers the rows that come without a key, and stays ahead of the integers that rows have for
keys: see `Table.Numbered` and `TableCall.numbered_perform` for one call. Lookups take texts and
fractions for numbers too, though, which the numbering passes over, and read numbers as doubles,
which tell integers apart up to `2 ^ 53`. What is left is said by `automatic_keys_fresh`: within
these bounds a new key is loosely equal to the key of another row only if that one is no integer and
reads as the same number; and if there is none, the new row and no other is found, updated and
deleted by its key.
-/

namespace EntityGate

/-! ## Keys that are integers -/

namespace Stored

theorem eq_of_signed {value : Json} {number : Int} (h : Table.signed? value = some number) :
    value = Json.ofInt number := by
  unfold Table.signed? at h
  split at h
  · next written =>
    cases written with
    | int written =>
        simp only [JsonNumber.toSigned?] at h
        split at h
        · cases h
          rfl
        · cases h
    | double written => cases h
  · cases h

theorem signed_of_int {number : Int} (h : number < 2 ^ 63) :
    Table.signed? (Json.ofInt number) = some number := by
  show (if number < 2 ^ 63 then some number else none) = some number
  rw [if_pos h]

theorem compare_of_int (number other : Int) :
    compare? (Json.ofInt number) (Json.ofInt other) =
      (Binary64.ofInt number).compare? (Binary64.ofInt other) := rfl

theorem compare_of_int_self (number : Int) :
    compare? (Json.ofInt number) (Json.ofInt number) = some .eq := by
  simp [compare_of_int, Binary64.compare_of_int]

/-- A value whose integer, if it is one, is smaller is loosely equal to an integer only if it is no
integer and reads as the same number. -/
theorem loose_eq_of_int_iff {value : Json} {number : Int} (hpos : 0 < number)
    (hle : number ≤ 2 ^ 53) (hsmaller : ∀ key, Table.signed? value = some key → key < number) :
    looseEq value (Json.ofInt number) = true ↔
      Table.signed? value = none ∧ compare? value (Json.ofInt number) = some .eq := by
  cases hsigned : Table.signed? value with
  | some key =>
      have hlt := hsmaller key hsigned
      rw [eq_of_signed hsigned, looseEq, compare_of_int, Binary64.compare_of_int_lt hlt hpos hle]
      have hne : key ≠ number := by omega
      simp [Json.ofInt, Json.sameValue, JsonNumber.sameValue, hne]
  | none =>
      have hother : value.sameValue (Json.ofInt number) = false := by
        cases value with
        | number written =>
            cases written with
            | int written =>
                have hne : written ≠ number := by
                  rintro rfl
                  cases hsigned.symm.trans (signed_of_int (by omega : written < 2 ^ 63))
                simp [Json.ofInt, Json.sameValue, JsonNumber.sameValue, hne]
            | double written => simp [Json.ofInt, Json.sameValue, JsonNumber.sameValue]
        | _ => simp [Json.ofInt, Json.sameValue]
      simp [looseEq, hother]

end Stored

namespace Table

variable {keyColumn : String} {table : Table} {room : Nat}

/-- The integer that a row has for a key. -/
def keyNumber? (keyColumn : String) (row : Row) : Option Int :=
  (JsonFields.get? row keyColumn).bind signed?

/-- The numbering is ahead of the integers among the keys and leaves room for some rows more, up to
where doubles tell integers apart. -/
structure Numbered (keyColumn : String) (table : Table) (room : Nat) : Prop where
  nonneg : 0 ≤ table.lastKey
  ahead : ∀ row ∈ table.rows, ∀ key, keyNumber? keyColumn row = some key → key ≤ table.lastKey
  room_lt : table.lastKey + room < 2 ^ 53

/-- Rows with the same keys may take the place of rows. -/
theorem Numbered.of_rows {other : Table} (h : table.Numbered keyColumn room)
    (hlast : other.lastKey = table.lastKey)
    (hrows : ∀ row ∈ other.rows, ∃ old ∈ table.rows,
      JsonFields.get? row keyColumn = JsonFields.get? old keyColumn) :
    other.Numbered keyColumn room := by
  refine ⟨hlast ▸ h.nonneg, fun row hrow key hkey => ?_, hlast ▸ h.room_lt⟩
  obtain ⟨old, hold, hsame⟩ := hrows row hrow
  rw [hlast]
  refine h.ahead old hold key ?_
  rw [keyNumber?, ← hsame]
  exact hkey

/-- A row takes up room for one row, if its key is an integer that leaves room too. -/
theorem Numbered.append (h : table.Numbered keyColumn (room + 1)) {row : Row}
    (hkey : ∀ key, keyNumber? keyColumn row = some key → key + (room + 1 : Nat) < 2 ^ 53) :
    ∃ result, table.append keyColumn row = .ok result ∧ result.1.Numbered keyColumn room := by
  obtain ⟨hnonneg, hahead, hroom⟩ := h
  have hstored {last : Int} {stored : Row} (hle : table.lastKey ≤ last)
      (hnew : ∀ key, keyNumber? keyColumn stored = some key → key ≤ last)
      (hlast : last + room < 2 ^ 53) :
      (Table.mk (table.rows ++ [stored]) last).Numbered keyColumn room := by
    refine ⟨by show 0 ≤ last; omega, fun other hother key hfound => ?_, hlast⟩
    rcases List.mem_append.mp hother with hbefore | hlast'
    · exact Int.le_trans (hahead other hbefore key hfound) hle
    · exact hnew key (List.mem_singleton.mp hlast' ▸ hfound)
  unfold keyNumber? at hkey
  unfold Table.append withKey
  cases hget : JsonFields.get? row keyColumn with
  | none =>
      dsimp only
      rw [next_key_of_lt (by omega) (by omega)]
      refine ⟨_, rfl, hstored (by omega) (fun key hfound => ?_) (by omega)⟩
      rw [keyNumber?, JsonFields.get_insert, if_pos rfl] at hfound
      have hsame : some (table.lastKey + 1) = some key :=
        (Stored.signed_of_int (by omega)).symm.trans hfound
      exact Int.le_of_eq (Option.some.inj hsame).symm
  | some value =>
      rw [hget] at hkey
      dsimp only
      cases hsigned : signed? value with
      | none =>
          refine ⟨_, rfl, hstored (Int.le_refl table.lastKey) (fun key hfound => ?_)
            (by show table.lastKey + room < 2 ^ 53; omega)⟩
          rw [keyNumber?, hget] at hfound
          cases hsigned.symm.trans hfound
      | some number =>
          have hbound := hkey number hsigned
          refine ⟨_, rfl, hstored (Int.le_max_left _ _) (fun key hfound => ?_) ?_⟩
          · rw [keyNumber?, hget] at hfound
            have hsame : some number = some key := hsigned.symm.trans hfound
            exact Option.some.inj hsame ▸ Int.le_max_right _ _
          · show max table.lastKey number + room < 2 ^ 53
            omega

/-- Rows that are appended one after the other take up as much room. -/
theorem Numbered.seed_table {rows : List Row} (h : table.Numbered "id" (rows.length + room))
    (hkeys : ∀ row ∈ rows, ∀ key, keyNumber? "id" row = some key →
      key + (rows.length + room : Nat) < 2 ^ 53) :
    ∃ after, Store.seedTable table rows = .ok after ∧ after.Numbered "id" room := by
  induction rows generalizing table with
  | nil => exact ⟨table, rfl, by simpa using h⟩
  | cons row rest ih =>
      rw [List.length_cons] at h hkeys
      have hlength : rest.length + 1 + room = rest.length + room + 1 := by omega
      rw [hlength] at h hkeys
      obtain ⟨⟨next, stored⟩, happend, hnext⟩ := h.append (hkeys row List.mem_cons_self)
      obtain ⟨after, hrest, hafter⟩ := ih hnext fun other hother key hkey => by
        have hroom := hkeys other (List.mem_cons_of_mem _ hother) key hkey
        omega
      refine ⟨after, ?_, hafter⟩
      rw [Store.seedTable, List.foldlM_cons, happend]
      exact hrest

/-- A row without a key is stored under the next number. -/
theorem Numbered.append_keyless (h : table.Numbered keyColumn room) {row : Row}
    (hkey : JsonFields.get? row keyColumn = none) :
    table.append keyColumn row =
      let stored := row ++ [(keyColumn, Json.ofInt (table.lastKey + 1))]
      .ok (⟨table.rows ++ [stored], table.lastKey + 1⟩, stored) := by
  obtain ⟨hnonneg, -, hroom⟩ := h
  have hnext : nextKey table.lastKey = .ok (table.lastKey + 1) :=
    next_key_of_lt (by omega) (by omega)
  simp only [Table.append, withKey, hkey, hnext, JsonFields.insert_of_get_none _ hkey]
  rfl

/-- The next number is loosely equal to the key of a row only if that is no integer and reads as the
same number. -/
theorem Numbered.has_next_key_iff (h : table.Numbered keyColumn room) {row : Row}
    (hrow : row ∈ table.rows) :
    hasKey keyColumn (Json.ofInt (table.lastKey + 1)) row = true ↔
      ∃ value, JsonFields.get? row keyColumn = some value ∧ signed? value = none ∧
        Stored.compare? value (Json.ofInt (table.lastKey + 1)) = some .eq := by
  obtain ⟨hnonneg, hahead, hroom⟩ := h
  cases hget : JsonFields.get? row keyColumn with
  | none => simp [hasKey, hget]
  | some value =>
      have hsmaller (number : Int) (hnumber : signed? value = some number) :
          number < table.lastKey + 1 := by
        have hfound : keyNumber? keyColumn row = some number := by
          rw [keyNumber?, hget]
          exact hnumber
        have hle := hahead row hrow number hfound
        omega
      rw [has_key_of_get hget, Stored.loose_eq_of_int_iff (by omega) (by omega) hsmaller]
      simp

/-- An update keeps all keys. -/
theorem exists_of_mem_update_rows {key : Json} {attributes : JsonFields} {rows rows' : List Row}
    {changed : Row} (h : updateRows keyColumn key attributes rows = some (rows', changed)) :
    ∀ row ∈ rows', ∃ old ∈ rows,
      JsonFields.get? row keyColumn = JsonFields.get? old keyColumn := by
  induction rows generalizing rows' with
  | nil => cases h
  | cons first rest ih =>
      unfold updateRows at h
      split at h
      · cases h
        intro row hrow
        rcases List.mem_cons.mp hrow with rfl | hrow
        · exact ⟨first, List.mem_cons_self, by rw [get_set_attributes, if_pos rfl]⟩
        · exact ⟨row, List.mem_cons_of_mem _ hrow, rfl⟩
      · obtain ⟨⟨others, changed⟩, hothers, heq⟩ := Option.map_eq_some_iff.mp h
        cases heq
        intro row hrow
        rcases List.mem_cons.mp hrow with rfl | hrow
        · exact ⟨row, List.mem_cons_self, rfl⟩
        · obtain ⟨old, hold, hsame⟩ := ih hothers row hrow
          exact ⟨old, List.mem_cons_of_mem _ hold, hsame⟩

end Table

/-! ## Calls on one table -/

/-- A call that may change a table whose key column is `id`. -/
inductive TableCall where
  | seed (values : List Json)
  | insert (attributes : JsonFields)
  | update (key : Json) (attributes : JsonFields)
  | delete (key : Json)

namespace TableCall

/-- The rows that the call appends, as they are given. -/
def added : TableCall → List Row
  | .seed values => values.filterMap Json.fields?
  | .insert attributes => [attributes]
  | .update _ _ | .delete _ => []

/-- The store after the call, if the table does not run out of numbers. -/
def perform (name : String) (store : Store) : TableCall → Except Failure Store
  | .seed values => store.seed name values
  | .insert attributes => (store.insert ⟨name, "id"⟩ attributes).map Prod.fst
  | .update key attributes => .ok (store.update ⟨name, "id"⟩ key attributes).1
  | .delete key => .ok (store.delete ⟨name, "id"⟩ key).1

/-- The store after calls on one table, empty at first. -/
def storeAfter (name : String) (calls : List TableCall) : Except Failure Store :=
  calls.foldlM (perform name) {}

/-- The rows that calls append, as they are given. -/
def addedBy (calls : List TableCall) : List Row := calls.flatMap added

/-- The integers that are given as keys leave room to number all rows below `2 ^ 53`. -/
def LeavesRoom (calls : List TableCall) : Prop :=
  ∀ key ∈ 0 :: (addedBy calls).filterMap (Table.keyNumber? "id"),
    key + ((addedBy calls).length : Int) < 2 ^ 53

variable {name : String} {store : Store} {room : Nat}

/-- A call keeps the numbering ahead and takes up room for the rows that it appends. -/
theorem numbered_perform {call : TableCall}
    (h : (store.table name).Numbered "id" (call.added.length + room))
    (hkeys : ∀ row ∈ call.added, ∀ key, Table.keyNumber? "id" row = some key →
      key + (call.added.length + room : Nat) < 2 ^ 53) :
    ∃ after, perform name store call = .ok after ∧ (after.table name).Numbered "id" room := by
  cases call with
  | seed values =>
      obtain ⟨table, hseed, htable⟩ := h.seed_table hkeys
      refine ⟨store.setTable name table, ?_, by rwa [Store.table_set_table]⟩
      show (Store.seedTable (store.table name) (values.filterMap Json.fields?)).map _ = _
      rw [show Store.seedTable (store.table name) (values.filterMap Json.fields?) = .ok table
        from hseed]
      rfl
  | insert attributes =>
      have hlength : (insert attributes).added.length + room = room + 1 := Nat.add_comm 1 room
      rw [hlength] at h hkeys
      obtain ⟨⟨table, stored⟩, happend, htable⟩ :=
        h.append (hkeys attributes (List.mem_singleton_self _))
      have hinsert : store.insert ⟨name, "id"⟩ attributes =
          .ok (store.setTable name table, stored) :=
        Store.insert_eq_ok_iff.mpr ⟨table, happend, rfl⟩
      refine ⟨store.setTable name table, ?_, by rwa [Store.table_set_table]⟩
      rw [perform, hinsert]
      rfl
  | update key attributes =>
      have hsame : (update key attributes).added.length + room = room := Nat.zero_add room
      rw [hsame] at h
      let source : EntitySource := ⟨name, "id"⟩
      refine ⟨_, rfl, ?_⟩
      show ((store.update source key attributes).1.table name).Numbered "id" room
      cases hrows : Table.updateRows source.primaryKey key attributes (store.rows source.table) with
      | none =>
          rw [Store.update_of_none hrows]
          exact h
      | some result =>
          rw [Store.update_of_some hrows, Store.table_set_table]
          exact h.of_rows rfl (Table.exists_of_mem_update_rows hrows)
  | delete key =>
      have hsame : (delete key).added.length + room = room := Nat.zero_add room
      rw [hsame] at h
      refine ⟨_, rfl,
        h.of_rows (Store.last_key_delete store ⟨name, "id"⟩ key) fun row hrow => ?_⟩
      have hkept := Store.delete_rows store ⟨name, "id"⟩ key
      have hmem : row ∈ (store.delete ⟨name, "id"⟩ key).1.rows name := hrow
      rw [hkept] at hmem
      exact ⟨row, (List.mem_filter.mp hmem).1, rfl⟩

theorem numbered_foldl {calls : List TableCall}
    (h : (store.table name).Numbered "id" ((addedBy calls).length + room))
    (hkeys : ∀ row ∈ addedBy calls, ∀ key, Table.keyNumber? "id" row = some key →
      key + ((addedBy calls).length + room : Nat) < 2 ^ 53) :
    ∃ after, calls.foldlM (perform name) store = .ok after ∧
      (after.table name).Numbered "id" room := by
  induction calls generalizing store with
  | nil => exact ⟨store, rfl, by simpa [addedBy] using h⟩
  | cons call rest ih =>
      have hadded : addedBy (call :: rest) = call.added ++ addedBy rest := rfl
      rw [hadded, List.length_append] at h hkeys
      rw [Nat.add_assoc] at h hkeys
      obtain ⟨next, hcall, hnext⟩ := numbered_perform h fun row hrow =>
        hkeys row (List.mem_append_left _ hrow)
      obtain ⟨after, hrest, hafter⟩ := ih hnext fun row hrow key hkey => by
        have hroom := hkeys row (List.mem_append_right _ hrow) key hkey
        omega
      refine ⟨after, ?_, hafter⟩
      rw [List.foldlM_cons, hcall]
      exact hrest

/-- Calls that leave room succeed, and after them the numbering is ahead of the keys. -/
theorem numbered_after (name : String) {calls : List TableCall} (h : LeavesRoom calls) :
    ∃ store, storeAfter name calls = .ok store ∧ (store.table name).Numbered "id" 0 := by
  refine numbered_foldl ⟨Int.le_refl 0, nofun, ?_⟩ fun row hrow key hkey => ?_
  · exact h 0 List.mem_cons_self
  · exact h key (List.mem_cons_of_mem _ (List.mem_filterMap.mpr ⟨row, hrow, hkey⟩))

end TableCall

/-! ## The row of a new key -/

namespace Store

/-- The last row of a table, after others, is the only one that is found, updated and deleted by a
key. Finding may fail for a like pattern in the query that it starts from, and for nothing else. -/
structure ReachesOnly [Libraries] (store : Store) (source : EntitySource) (others : List Row)
    (row : Row) (key : Json) : Prop where
  rows_eq : store.rows source.table = others ++ [row]
  find : ∀ (query : SelectQuery) (found : List Row),
    store.fetch source (query.byKey source key) = .ok found → found.head? =
      if Predicate.holdsAll row query.predicates then some (Row.project query.columns row) else none
  found : ∀ query : SelectQuery, Predicate.Compile query.predicates →
    ∃ found, store.fetch source (query.byKey source key) = .ok found
  update : ∀ attributes,
    let changed := Table.setAttributes source.primaryKey attributes row
    (store.update source key attributes).1.rows source.table = others ++ [changed] ∧
      (store.update source key attributes).2 = some changed
  delete : (store.delete source key).1.rows source.table = others ∧
    (store.delete source key).2 = true

variable {store : Store} {source : EntitySource} {others : List Row} {row : Row} {number : Int}

/-- A number finds the rows that have a key that compares equal. -/
theorem holds_key_iff (hkey : Identifier.isDotted source.primaryKey = false) (other : Row) :
    Predicate.holds other (.compare source.primaryKey .eq (Json.ofInt number) .text) = true ↔
      ∃ value, JsonFields.get? other source.primaryKey = some value ∧
        Stored.compare? value (Json.ofInt number) = some .eq := by
  have hcoerce : ValueKind.text.coerce (Json.ofInt number) = Json.ofInt number := rfl
  simp only [Predicate.holds, Row.lookup_of_undotted hkey, hcoerce, Predicate.compares]
  cases JsonFields.get? other source.primaryKey with
  | none => simp
  | some value =>
      cases hcompare : Stored.compare? value (Json.ofInt number) with
      | none => simp [hcompare]
      | some order => simp [hcompare, Comparison.accepts]

theorem has_key_of_holds (hkey : Identifier.isDotted source.primaryKey = false) {other : Row}
    (h : Predicate.holds other (.compare source.primaryKey .eq (Json.ofInt number) .text) = true) :
    Table.hasKey source.primaryKey (Json.ofInt number) other = true := by
  obtain ⟨value, hvalue, hcompare⟩ := (holds_key_iff hkey other).mp h
  rw [Table.has_key_of_get hvalue, Stored.looseEq, hcompare]
  rfl

/-- What a key finds among rows of which only the last one has it. -/
theorem satisfying_key (hkey : Identifier.isDotted source.primaryKey = false) (query : SelectQuery)
    (hnew : JsonFields.get? row source.primaryKey = some (Json.ofInt number))
    (hothers : ∀ other ∈ others,
      Table.hasKey source.primaryKey (Json.ofInt number) other = false) :
    (query.byKey source (Json.ofInt number)).satisfying (others ++ [row]) =
      if Predicate.holdsAll row query.predicates then [row] else [] := by
  have hholds (other : Row) :
      Predicate.holdsAll other (query.byKey source (Json.ofInt number)).predicates =
        (Predicate.holdsAll other query.predicates &&
          Predicate.holds other (.compare source.primaryKey .eq (Json.ofInt number) .text)) := by
    simp [SelectQuery.byKey, SelectQuery.firstOnly, SelectQuery.addPredicate, Predicate.holdsAll]
  have hrow : Predicate.holds row (.compare source.primaryKey .eq (Json.ofInt number) .text) =
      true :=
    (holds_key_iff hkey row).mpr ⟨_, hnew, Stored.compare_of_int_self number⟩
  have hnone : others.filter (fun other => Predicate.holdsAll other
      (query.byKey source (Json.ofInt number)).predicates) = [] := by
    refine List.filter_eq_nil_iff.mpr fun other hother hall => ?_
    rw [hholds, Bool.and_eq_true] at hall
    have hhas := has_key_of_holds hkey hall.2
    rw [hothers other hother] at hhas
    cases hhas
  rw [SelectQuery.satisfying, List.filter_append, hnone, List.nil_append, List.filter_cons, hholds,
    hrow, Bool.and_true, List.filter_nil]

/-- A key that the last row of a table shares with no other row leads to that row only. -/
theorem reaches_only [Libraries] [LawfulLibraries]
    (hkey : Identifier.isDotted source.primaryKey = false)
    (hrows : store.rows source.table = others ++ [row])
    (hnew : JsonFields.get? row source.primaryKey = some (Json.ofInt number))
    (hothers : ∀ other ∈ others,
      Table.hasKey source.primaryKey (Json.ofInt number) other = false) :
    store.ReachesOnly source others row (Json.ofInt number) := by
  have hself : Table.hasKey source.primaryKey (Json.ofInt number) row = true := by
    rw [Table.has_key_of_get hnew, Stored.looseEq, Stored.compare_of_int_self]
    rfl
  have hkept : (store.rows source.table).filter
      (fun other => !Table.hasKey source.primaryKey (Json.ofInt number) other) = others := by
    have hall : others.filter
        (fun other => !Table.hasKey source.primaryKey (Json.ofInt number) other) = others :=
      List.filter_eq_self.mpr fun other hother => by simp [hothers other hother]
    simp [hrows, hall, hself]
  have hsatisfying (query : SelectQuery) := satisfying_key hkey query hnew hothers
  refine ⟨hrows, fun query found hfound => ?_, fun query hcompile => ?_, fun attributes => ?_,
    ?_, ?_⟩
  · obtain ⟨_, ⟨matched, sorted, hmatched, hsorted, rfl⟩, rfl⟩ :=
      SelectQuery.select_eq_ok_iff.mp hfound
    rw [hrows] at hmatched
    obtain rfl := (SelectQuery.matching_eq hmatched).trans (hsatisfying query)
    rw [SelectQuery.sorted_of_length_le (by split <;> simp)] at hsorted
    cases hsorted
    split <;> simp [SelectQuery.window, SelectQuery.byKey, SelectQuery.firstOnly,
      SelectQuery.addPredicate]
  · have hcompile' : Predicate.Compile (query.byKey source (Json.ofInt number)).predicates :=
      Predicate.compile_append_iff.mpr ⟨hcompile, fun _ h => (List.not_mem_nil h).elim⟩
    refine ⟨_, SelectQuery.select_eq_ok_iff.mpr ⟨_, ⟨_, _,
      SelectQuery.matching_of_compile hcompile' _, SelectQuery.sorted_of_length_le ?_, rfl⟩, rfl⟩⟩
    rw [hrows, hsatisfying]
    split <;> simp
  · have hupdate : Table.updateRows source.primaryKey (Json.ofInt number) attributes
        (store.rows source.table) =
        some (others ++ [Table.setAttributes source.primaryKey attributes row],
          Table.setAttributes source.primaryKey attributes row) := by
      rw [hrows, Table.update_rows_append attributes hothers]
      simp [Table.updateRows, hself]
    rw [update_of_some hupdate]
    exact ⟨by simp [Store.rows], rfl⟩
  · rw [delete_rows, hkept]
  · have hlength : others.length < (store.table source.table).rows.length := by
      show others.length < (store.rows source.table).length
      simp [hrows]
    simp only [Store.rows] at hkept
    simp only [delete, hkept, if_pos hlength]

end Store

section

variable [Libraries] [LawfulLibraries]

open TableCall in
/-- An automatic key is fresh as far as the numbering sees. After any calls on a table that leave
room, a row without a key is appended under the next number. The key of another row is loosely equal
to it exactly if it is no integer and compares equal with that number, as a text or a fraction may.
If there is no such row, the key finds, updates and deletes the new row and no other. -/
theorem automatic_keys_fresh (name : String) (calls : List TableCall) (hroom : LeavesRoom calls)
    (attributes : JsonFields) (hkey : JsonFields.get? attributes "id" = none) :
    ∃ store, storeAfter name calls = .ok store ∧
      let source : EntitySource := ⟨name, "id"⟩
      let key := Json.ofInt ((store.table name).lastKey + 1)
      let row : Row := attributes ++ [("id", key)]
      let others := store.rows name
      ∃ after, store.insert source attributes = .ok (after, row) ∧
        after.rows name = others ++ [row] ∧
        (∀ other ∈ others, Table.hasKey "id" key other = true ↔
          ∃ value, JsonFields.get? other "id" = some value ∧ Table.signed? value = none ∧
            Stored.compare? value key = some .eq) ∧
        ((∀ other ∈ others, ∀ value, JsonFields.get? other "id" = some value →
            Table.signed? value = none → Stored.compare? value key ≠ some .eq) →
          after.ReachesOnly source others row key) := by
  obtain ⟨store, hstore, hnumbered⟩ := numbered_after name hroom
  refine ⟨store, hstore, ?_⟩
  intro source key row others
  have happend : (store.table name).append "id" attributes =
      .ok (⟨others ++ [row], (store.table name).lastKey + 1⟩, row) := hnumbered.append_keyless hkey
  let after := store.setTable name ⟨others ++ [row], (store.table name).lastKey + 1⟩
  have hinsert : store.insert source attributes = .ok (after, row) :=
    Store.insert_eq_ok_iff.mpr ⟨_, happend, rfl⟩
  have hrows : after.rows name = others ++ [row] := by
    show (after.table name).rows = _
    rw [Store.table_set_table]
  have hothers (other : Row) (hother : other ∈ others) : Table.hasKey "id" key other = true ↔ _ :=
    hnumbered.has_next_key_iff hother
  refine ⟨after, hinsert, hrows, hothers, fun hfree => ?_⟩
  have hnew : JsonFields.get? row "id" = some key := by
    show JsonFields.get? (attributes ++ [("id", key)]) "id" = some key
    rw [← JsonFields.insert_of_get_none key hkey, JsonFields.get_insert, if_pos rfl]
  have hundotted : Identifier.isDotted "id" = false := by decide
  refine Store.reaches_only hundotted hrows hnew fun other hother => ?_
  rw [Bool.eq_false_iff]
  intro hhas
  obtain ⟨value, hvalue, hsigned, hcompare⟩ := (hothers other hother).mp hhas
  exact hfree other hother value hvalue hsigned hcompare

end

open scoped Bundled

/-- Posts of which one was given a number for a key, one nothing and one a text; the first of them
is deleted. -/
def postCalls : List TableCall :=
  [.seed [.object [("id", Json.ofInt 3)], .object [("title", .string "a")]],
    .delete (.string "3"), .insert [("id", .string "first")]]

open TableCall in
/-- The next post is found by its number, and no other one is. -/
theorem fifth_post_reached :
    let source : EntitySource := ⟨"posts", "id"⟩
    ∃ store after, storeAfter "posts" postCalls = .ok store ∧
      store.insert source [] = .ok (after, [("id", Json.ofInt 5)]) ∧
      after.ReachesOnly source
        [[("title", .string "a"), ("id", Json.ofInt 4)], [("id", .string "first")]]
        [("id", Json.ofInt 5)] (Json.ofInt 5) := by
  have hroom : LeavesRoom postCalls := by
    unfold LeavesRoom
    decide +kernel
  obtain ⟨store, hstore, after, hinsert, -, -, hreaches⟩ :=
    automatic_keys_fresh "posts" postCalls hroom [] rfl
  cases hstore
  refine ⟨_, after, rfl, hinsert, hreaches ?_⟩
  intro other hother value hvalue hsigned
  have hcases : other = [("title", .string "a"), ("id", Json.ofInt 4)] ∨
      other = [("id", .string "first")] := by
    simpa using (show other ∈ [[("title", Json.string "a"), ("id", Json.ofInt 4)],
      [("id", .string "first")]] from hother)
  rcases hcases with rfl | rfl
  · obtain rfl : Json.ofInt 4 = value := Option.some.inj hvalue
    cases hsigned
  · obtain rfl : Json.string "first" = value := Option.some.inj hvalue
    decide +kernel

/-- The key that a row is stored under may be taken: by a text that writes the number, which then is
what the key finds, and beyond the integers that doubles tell apart by the number before. -/
theorem new_key_taken :
    let source : EntitySource := ⟨"posts", "id"⟩
    (∃ texts after found,
      TableCall.storeAfter "posts" [.seed [.object [("id", .string "1")]]] = .ok texts ∧
      texts.rows "posts" = [[("id", .string "1")]] ∧
      texts.insert source [] = .ok (after, [("id", Json.ofInt 1)]) ∧
      Table.hasKey "id" (Json.ofInt 1) [("id", .string "1")] = true ∧
      after.fetch source (SelectQuery.byKey {} source (Json.ofInt 1)) = .ok found ∧
      found.head? = some [("id", .string "1")]) ∧
    ∃ large after,
      TableCall.storeAfter "posts" [.seed [.object [("id", Json.ofInt (2 ^ 53))]]] = .ok large ∧
      large.rows "posts" = [[("id", Json.ofInt (2 ^ 53))]] ∧
      large.insert source [] = .ok (after, [("id", Json.ofInt (2 ^ 53 + 1))]) ∧
      Table.hasKey "id" (Json.ofInt (2 ^ 53 + 1)) [("id", Json.ofInt (2 ^ 53))] = true := by
  refine ⟨⟨_, _, _, rfl, rfl, rfl, ?_, rfl, rfl⟩, _, _, rfl, rfl, rfl, ?_⟩
  · decide +kernel
  · decide +kernel

end EntityGate
