import EntityGate.Proofs.Gate.Clearance
import EntityGate.Proofs.Library.Bundled
import EntityGate.Proofs.Store.Keys

/-!
# The row that a default mutation touches

An update or a deletion finds its row twice: within the scope of the gate by the identifier, and in
the whole table by the key of what was found. Read `default_mutation_frame` for the result: where
keys are distinct both are the same row, it is in scope, and nothing else changes.
-/

namespace EntityGate

open Session (perform)

/-- The payload that passed: all of it when the action has no rules, else what the validator
returned, which are the ruled fields that are present unless it is another one. -/
def Action.Passes [Libraries] (action : Action) (validate : InputValidator)
    (payload accepted : JsonFields) : Prop :=
  action.acceptedPayload validate payload = .ok accepted ∧
    (action.rules.isEmpty = true → accepted = payload) ∧
    (validate = Validator.validate → action.rules.isEmpty = false → ∀ field value,
      (field, value) ∈ accepted ↔
        field ∈ action.rules.keys ∧ JsonFields.get? payload field = some value)

theorem Validator.mem_validated_fields {data : JsonFields} {rules : RuleMap} {field : String}
    {value : Json} :
    (field, value) ∈ Validator.validatedFields data rules ↔
      field ∈ rules.keys ∧ JsonFields.get? data field = some value := by
  simp only [Validator.validatedFields, RuleMap.keys, List.mem_filterMap, List.mem_map,
    Option.map_eq_some_iff, Prod.mk.injEq]
  constructor
  · rintro ⟨entry, hentry, found, hfound, rfl, rfl⟩
    exact ⟨⟨entry, hentry, rfl⟩, hfound⟩
  · rintro ⟨⟨entry, hentry, rfl⟩, hfound⟩
    exact ⟨entry, hentry, value, hfound, rfl, rfl⟩

theorem Action.passes_of_accepted [Libraries] {action : Action} {validate : InputValidator}
    {payload accepted : JsonFields} (h : action.acceptedPayload validate payload = .ok accepted) :
    action.Passes validate payload accepted := by
  refine ⟨h, fun hrules => ?_, ?_⟩
  · simp only [acceptedPayload, hrules, if_true, Except.ok.injEq] at h
    exact h.symm
  · rintro rfl hrules
    simp only [acceptedPayload, hrules, Bool.false_eq_true, if_false, Validator.validate] at h
    split at h
    · rename_i validated hvalidated
      cases h
      split at hvalidated
      · cases hvalidated
        intro field value
        exact Validator.mem_validated_fields
      · cases hvalidated
    · cases h

namespace GateVersion

variable {gate : GateVersion} {validate : InputValidator} {policy : Policy}
  {groups : Option CacheGroups} {name : String} {identifier : Option String} {request : Request}
  {session after : Session} {action : Action}

/-! ## What the default handling writes -/

/-- The store after the default handling of a kind of action. -/
def defaultWrite (gate : GateVersion) (kind : ActionKind) (key : Option Json)
    (payload : JsonFields) (store : Store) : Except Failure Store :=
  match kind, key with
  | .create, _ => (store.insert gate.source payload).map Prod.fst
  | .update, some key => .ok (store.update gate.source key payload).1
  | .delete, some key => .ok (store.delete gate.source key).1
  | _, _ => .ok store

theorem default_write_table_of_ne {kind : ActionKind} {key : Option Json} {payload : JsonFields}
    {store written : Store} (h : gate.defaultWrite kind key payload store = .ok written)
    {other : String} (hother : other ≠ gate.source.table) :
    written.table other = store.table other := by
  unfold defaultWrite at h
  split at h
  · obtain ⟨⟨_, row⟩, hinsert, rfl⟩ := except_map_eq_ok_iff.mp h
    exact Store.insert_table_of_ne hinsert hother
  · cases h
    exact Store.update_table_of_ne _ _ _ hother
  · cases h
    exact Store.delete_table_of_ne _ _ hother
  · cases h
    rfl

theorem default_handling_store {kind : ActionKind} {entity key : Option Json}
    {payload : JsonFields} {expectsJson : Bool} {result : ActionResult}
    (h : perform session (gate.defaultHandling kind entity key payload expectsJson) =
      (.ok result, after)) :
    gate.defaultWrite kind key payload session.store = .ok after.store := by
  unfold defaultHandling at h
  unfold defaultWrite
  split at h
  · obtain ⟨row, middle, hinsert, h⟩ := Session.perform_bind_eq_ok h
    cases h
    cases hstore : session.store.insert gate.source payload with
    | ok inserted =>
        rw [Session.perform_insert_ok hstore] at hinsert
        cases hinsert
        rfl
    | error failure =>
        rw [Session.perform_insert_error hstore] at hinsert
        cases hinsert
  · rename_i key
    rw [Session.perform_bind_ok (Session.perform_update _ _ _ _)] at h
    cases hrow : (session.store.update gate.source key payload).2 <;> rw [hrow] at h <;> cases h
    rfl
  all_goals
    cases h
    try rfl

/-- The cache after the removal of the listings that the gate keeps. -/
def flushed (gate : GateVersion) (groups : Option CacheGroups) (cache : Cache) : Cache :=
  match groups, gate.cacheGroup with
  | some kept, some group => (Cache.perform cache (kept.flush group)).2
  | _, _ => cache

theorem flush_listings_effect (gate : GateVersion) (groups : Option CacheGroups)
    (session : Session) :
    let flushing := perform session (gate.flushListings groups)
    flushing.2.store = session.store ∧ flushing.2.cache = gate.flushed groups session.cache := by
  unfold flushListings flushed
  cases groups with
  | none => exact ⟨rfl, rfl⟩
  | some kept =>
      cases gate.cacheGroup with
      | none => exact ⟨rfl, rfl⟩
      | some group =>
          simp only [Session.perform_bind, Session.perform_on_cache]
          rcases Cache.perform session.cache (kept.flush group) with ⟨_ | count, rest⟩ <;>
            exact ⟨rfl, rfl⟩

/-- What a successful action without a handler of its own has passed, and the store and the cache
that it leaves. -/
theorem execute_ok_effects [Libraries] {outcome : ActionOutcome}
    (haction : gate.action? name = some action) (hdefault : action.handler = none)
    (hrun : perform session (gate.execute validate policy groups name identifier request) =
      (.ok outcome, after)) :
    ∃ entity accepted,
      (perform session (gate.resolveEntity action identifier request)).1 = .ok entity ∧
      action.acceptedPayload validate request.payload = .ok accepted ∧
      gate.defaultWrite action.kind (gate.changedKey entity identifier) accepted session.store =
        .ok after.store ∧
      after.cache =
        if action.kind.isMutation then gate.flushed groups session.cache else session.cache := by
  rw [execute_eq] at hrun
  obtain ⟨⟨cleared, entity, accepted⟩, middle, hchecks, hdispatch⟩ :=
    Session.perform_bind_eq_ok hrun
  have hreads : Session.ReadsOnly gate.source
      (gate.checks validate policy name identifier request) := checks_reads
  have hmiddle : middle.store = session.store ∧ middle.cache = session.cache := by
    have hstore := hreads.store_eq session
    have hcache := hreads.cache_eq session
    rw [hchecks] at hstore hcache
    exact ⟨hstore, hcache⟩
  have hcleared := checks_eq_ok_iff.mp (congrArg Prod.fst hchecks)
  obtain rfl : action = cleared := Option.some.inj (haction.symm.trans hcleared.offered)
  refine ⟨entity, accepted, hcleared.resolved, hcleared.accepted, ?_⟩
  unfold dispatch at hdispatch
  rw [handle_of_no_handler hdefault] at hdispatch
  obtain ⟨result, handled, hhandle, hflush⟩ := Session.perform_bind_eq_ok hdispatch
  have hstore := default_handling_store hhandle
  have hcache := (default_handling_frame gate middle action.kind entity
    (gate.changedKey entity identifier) accepted request.expectsJson).1
  rw [hmiddle.1] at hstore
  rw [hhandle, hmiddle.2] at hcache
  rw [hstore, ← show handled.cache = session.cache from hcache]
  split at hflush
  · rename_i hmutation
    obtain ⟨_, flushed, hrest, hlast⟩ := Session.perform_bind_eq_ok hflush
    cases hlast
    have heffect := flush_listings_effect gate groups handled
    rw [hrest] at heffect
    refine ⟨congrArg Except.ok heffect.1.symm, ?_⟩
    simpa only [hmutation, if_true] using heffect.2
  · rename_i hmutation
    cases hflush
    exact ⟨rfl, by simp only [hmutation, Bool.false_eq_true, if_false]⟩

/-! ## The row that was found -/

/-- A row of the table that the identifier resolved to, with what stands before and after it. It
satisfies everything that the base query asks for. -/
structure FoundRow [Libraries] (gate : GateVersion) (action : Action) (identifier : Option String)
    (request : Request) (session : Session) (before : List Row) (row : Row)
    (rest : List Row) : Prop where
  rows_eq : session.store.rows gate.source.table = before ++ row :: rest
  resolved :
    (perform session (gate.resolveEntity action identifier request)).1 = .ok (some (.object row))
  in_scope : Predicate.holdsAll row (gate.scopedFrom request {}).predicates = true

/-- An entity that was resolved is a row in scope, and its key is loosely equal to itself. -/
theorem resolved_row [Libraries] [LawfulLibraries]
    (hkey : Identifier.isDotted gate.source.primaryKey = false)
    (hcolumns : (gate.scopedFrom request {}).columns = []) (hkind : action.kind ≠ .create)
    (hrequires : action.requiresIdentifier = true) {entity : Option Json}
    (h : (perform session (gate.resolveEntity action identifier request)).1 = .ok entity) :
    ∃ before row rest key, entity = some (.object row) ∧
      gate.FoundRow action identifier request session before row rest ∧
      JsonFields.get? row gate.source.primaryKey = some key ∧ Stored.looseEq key key = true := by
  have hresolved := h
  have hneeded : ¬(action.kind = .create ∨ action.requiresIdentifier = false) := by
    simp [hkind, hrequires]
  simp only [resolveEntity, hneeded, if_false] at h
  obtain ⟨found, middle, hrow, hfound⟩ := Session.perform_bind_eq_ok (Prod.ext h rfl)
  obtain rfl : some found = entity := Except.ok.inj (Prod.mk.inj hfound).1
  unfold resolveRow at hrow
  cases hid : identifier.bind Text.nonBlank? with
  | none => simp [hid] at hrow
  | some id =>
      simp only [hid] at hrow
      obtain ⟨result, _, hfind, hrow⟩ := Session.perform_bind_eq_ok hrow
      rw [Session.perform_find] at hfind
      obtain ⟨rows, hrows, rfl⟩ := except_map_eq_ok_iff.mp (congrArg Prod.fst hfind)
      cases hhead : rows.head? with
      | none => simp [hhead] at hrow
      | some row =>
          simp only [hhead, Session.perform_pure, Prod.mk.injEq, Except.ok.injEq] at hrow
          obtain ⟨rfl, -⟩ := hrow
          obtain ⟨hmem, hscope, key, hget, hcompare⟩ :=
            Store.find_sound hkey hcolumns hrows hhead
          obtain ⟨before, rest, hrows⟩ := List.append_of_mem hmem
          exact ⟨before, row, rest, key, rfl, ⟨hrows, hresolved, hscope⟩, hget,
            Stored.loose_eq_self (Option.isSome_of_eq_some hcompare)⟩

/-- The key that the default handling goes by is the one that the found row holds. -/
theorem changed_key_of_found {row : Row} {key : Json}
    (h : JsonFields.get? row gate.source.primaryKey = some key) :
    gate.changedKey (some (.object row)) identifier = some key := by
  simp [changedKey, Json.get?, h]

/-! ## The frame of a default mutation -/

/-- A default mutation that succeeds leaves every other table alone. A creation appends the payload
that passed, with the next number as key where it has none. An update and a deletion that need an
identifier touch the row that was resolved within the scope of the gate, and nothing else: the
update sets the fields that passed and keeps the key, the deletion removes the row. -/
theorem default_mutation_frame [Libraries] [LawfulLibraries] {outcome : ActionOutcome}
    (hkey : Identifier.isDotted gate.source.primaryKey = false)
    (hcolumns : (gate.scopedFrom request {}).columns = [])
    (hdistinct :
      Table.KeysDistinct gate.source.primaryKey (session.store.rows gate.source.table))
    (haction : gate.action? name = some action) (hdefault : action.handler = none)
    (hrun : perform session (gate.execute validate policy groups name identifier request) =
      (.ok outcome, after)) :
    ∃ accepted, action.Passes validate request.payload accepted ∧
      (∀ other, other ≠ gate.source.table →
        after.store.table other = session.store.table other) ∧
      (action.kind = .create →
        after.store.rows gate.source.table = session.store.rows gate.source.table ++
          [if (JsonFields.get? accepted gate.source.primaryKey).isSome then accepted
            else accepted ++ [(gate.source.primaryKey,
              Json.ofInt ((session.store.table gate.source.table).lastKey + 1))]]) ∧
      (action.kind = .update → action.requiresIdentifier = true →
        ∃ before row rest changed,
          gate.FoundRow action identifier request session before row rest ∧
          after.store.rows gate.source.table = before ++ changed :: rest ∧
          ∀ field, JsonFields.get? changed field =
            if field = gate.source.primaryKey then JsonFields.get? row field
            else (JsonFields.get? (JsonFields.ofList accepted) field).or
              (JsonFields.get? row field)) ∧
      (action.kind = .delete → action.requiresIdentifier = true →
        ∃ before row rest,
          gate.FoundRow action identifier request session before row rest ∧
          after.store.rows gate.source.table = before ++ rest) := by
  obtain ⟨entity, accepted, hentity, haccepted, hstore, -⟩ :=
    execute_ok_effects haction hdefault hrun
  refine ⟨accepted, Action.passes_of_accepted haccepted, fun other hother => ?_, fun hkind => ?_,
    fun hkind hrequires => ?_, fun hkind hrequires => ?_⟩
  · exact default_write_table_of_ne hstore hother
  · rw [hkind] at hstore
    obtain ⟨⟨_, row⟩, hinsert, rfl⟩ := except_map_eq_ok_iff.mp hstore
    obtain ⟨table, happend, hafter⟩ := Store.insert_eq_ok_iff.mp hinsert
    rw [← hafter, Store.rows, Store.table_set_table]
    exact Table.append_rows happend
  · have hnew : action.kind ≠ .create := by simp [hkind]
    obtain ⟨before, row, rest, key, rfl, hfound, hget, hself⟩ :=
      resolved_row hkey hcolumns hnew hrequires hentity
    -- The key read off the row leads back to it, as no other row has a key loosely equal to it.
    rw [hfound.rows_eq] at hdistinct
    refine ⟨before, row, rest, Table.setAttributes gate.source.primaryKey accepted row, hfound, ?_,
      Table.get_set_attributes accepted⟩
    have hupdate := Table.update_rows_at accepted hdistinct hget hself
    rw [← hfound.rows_eq] at hupdate
    rw [hkind, changed_key_of_found hget] at hstore
    rw [← Except.ok.inj hstore]
    simp only [Store.update_of_some hupdate, Store.rows, Store.table_set_table]
  · have hnew : action.kind ≠ .create := by simp [hkind]
    obtain ⟨before, row, rest, key, rfl, hfound, hget, hself⟩ :=
      resolved_row hkey hcolumns hnew hrequires hentity
    rw [hfound.rows_eq] at hdistinct
    refine ⟨before, row, rest, hfound, ?_⟩
    rw [hkind, changed_key_of_found hget] at hstore
    rw [← Except.ok.inj hstore]
    simp only [Store.delete_rows, hfound.rows_eq, Table.delete_rows_at hdistinct hget hself]

/-- The action of a gate that sets fields of a note. -/
def noteUpdate : Action := ⟨"update", .update, .patch, .empty, [], none, none, true, none⟩

/-- A gate for the notes of one owner. -/
def noteGate : GateVersion :=
  { postGate with
    source := ⟨"notes", "id"⟩
    actions := [noteUpdate]
    baseQuery := some fun query _ =>
      query.addPredicate (.compare "owner" .eq (.string "ann") .text) }

/-- A store with a note of each of two owners. -/
def noteSession : Session where
  store := ⟨[("notes",
    { rows := [
        [("id", .ofNat 1), ("owner", .string "bob")],
        [("id", .ofNat 2), ("owner", .string "ann")]]
      lastKey := 2 })]⟩

open scoped Bundled in
/-- The update of a note in scope touches that note, and the answer tells the store apart from the
one before. -/
theorem default_mutation_frame_of_note :
    let request : Request := { payload := [("text", .string "new"), ("id", .ofNat 9)] }
    let run := perform noteSession (noteGate.execute Validator.validate .allowAll none "update"
      (some "2") request)
    ∃ before row rest changed,
      noteGate.FoundRow noteUpdate (some "2") request noteSession before row rest ∧
      run.2.store.rows "notes" = before ++ changed :: rest ∧
      JsonFields.get? changed "text" = some (.string "new") ∧
      JsonFields.get? changed "id" = JsonFields.get? row "id" := by
  intro request run
  have hkey : Identifier.isDotted noteGate.source.primaryKey = false := by decide
  have haction : noteGate.action? "update" = some noteUpdate := rfl
  have hdistinct : Table.KeysDistinct "id" (noteSession.store.rows "notes") := by
    refine List.pairwise_pair.mpr fun leftKey rightKey hleft hright => ?_
    cases hleft
    cases hright
    exact ⟨by rfl, by rfl⟩
  obtain ⟨outcome, hrun⟩ : ∃ outcome, run.1 = .ok outcome := ⟨_, rfl⟩
  obtain ⟨accepted, hpasses, -, -, hupdate, -⟩ :=
    default_mutation_frame hkey rfl hdistinct haction rfl
      (Prod.ext hrun rfl)
  obtain rfl : accepted = request.payload := hpasses.2.1 rfl
  obtain ⟨before, row, rest, changed, hfound, hrows, hfields⟩ := hupdate rfl rfl
  exact ⟨before, row, rest, changed, hfound, hrows, hfields "text", hfields "id"⟩

end GateVersion

end EntityGate
