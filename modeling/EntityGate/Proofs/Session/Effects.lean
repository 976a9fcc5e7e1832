import EntityGate.Session.Basic

/-!
# What effects do to a session

`perform_bind` takes a sequence of effects apart, and every operation on the store has one lemma
that says what it answers and what it leaves. Effects that only look at one table are closed under
sequencing: see `ReadsOnly.bind`. They keep the store and the cache, and their answer depends on
nothing but the rows of the table. What such effects may ask of the store is a judgment on the
calls that they note, and it is closed under sequencing too: see `CallsOnly.bind`.
-/

namespace EntityGate

namespace Session

variable {α β : Type}

/-- The session with more calls in its journal. -/
def noting (session : Session) (calls : List StoreCall) : Session :=
  { session with journal := session.journal ++ calls }

@[simp] theorem noting_store (session : Session) (calls : List StoreCall) :
    (session.noting calls).store = session.store := rfl

@[simp] theorem noting_cache (session : Session) (calls : List StoreCall) :
    (session.noting calls).cache = session.cache := rfl

/-! ## Sequencing -/

@[simp] theorem perform_pure (session : Session) (value : α) :
    perform session (pure value) = (.ok value, session) := rfl

@[simp] theorem perform_throw (session : Session) (failure : Failure) :
    perform session (throw failure : Effect α) = (.error failure, session) := rfl

/-- A sequence stops at the first failure and keeps what happened before it. -/
theorem perform_bind (session : Session) (first : Effect α) (next : α → Effect β) :
    perform session (first >>= next) =
      match perform session first with
      | (.ok value, after) => perform after (next value)
      | (.error failure, after) => (.error failure, after) := by
  show ExceptT.bindCont next (perform session first).1 (perform session first).2 = _
  rcases perform session first with ⟨_ | _, after⟩ <;> rfl

/-- The rest of a sequence runs on what a successful first effect answers and leaves. -/
theorem perform_bind_ok {session after : Session} {first : Effect α} {value : α}
    (h : perform session first = (.ok value, after)) (next : α → Effect β) :
    perform session (first >>= next) = perform after (next value) := by
  rw [perform_bind, h]

/-- A failure of the first effect is the end of the sequence. -/
theorem perform_bind_error {session after : Session} {first : Effect α} {failure : Failure}
    (h : perform session first = (.error failure, after)) (next : α → Effect β) :
    perform session (first >>= next) = (.error failure, after) := by
  rw [perform_bind, h]

/-- A sequence that answers has a first effect that answers. -/
theorem perform_bind_eq_ok {session after : Session} {first : Effect α} {next : α → Effect β}
    {answer : β} (h : perform session (first >>= next) = (.ok answer, after)) :
    ∃ value middle, perform session first = (.ok value, middle) ∧
      perform middle (next value) = (.ok answer, after) := by
  rw [perform_bind] at h
  rcases hfirst : perform session first with ⟨_ | value, middle⟩
  · simp [hfirst] at h
  · exact ⟨value, middle, rfl, by simpa only [hfirst] using h⟩

@[simp] theorem perform_lift (session : Session) (result : Except Failure α) :
    perform session (liftExcept result) = (result, session) := by
  cases result <;> rfl

theorem perform_of_except (session : Session) (result : Except RequestError α) :
    perform session (ofExcept result) = (Failure.reporting result, session) :=
  perform_lift session _

/-- A sequence after a result goes on from it in the same session. -/
theorem perform_lift_bind_ok {result : Except Failure α} {value : α} (h : result = .ok value)
    (session : Session) (next : α → Effect β) :
    perform session (liftExcept result >>= next) = perform session (next value) :=
  perform_bind_ok (by rw [perform_lift, h]) next

/-- What follows a result has to agree on that result only. -/
theorem of_except_bind_congr {answer : Except RequestError α} {next other : α → Effect β}
    (h : ∀ value, answer = .ok value → next value = other value) :
    ofExcept answer >>= next = ofExcept answer >>= other := by
  cases answer with
  | error error => rfl
  | ok value =>
      show pure value >>= next = pure value >>= other
      rw [pure_bind, pure_bind, h value rfl]

/-! ## Operations on the store -/

theorem perform_record_bind (session : Session) (call : StoreCall) (next : Unit → Effect β) :
    perform session (record call >>= next) = perform (session.noting [call]) (next ()) :=
  perform_bind_ok rfl next

theorem perform_get_bind (session : Session) (next : Session → Effect β) :
    perform session (get >>= next) = perform session (next session) :=
  perform_bind_ok rfl next

theorem perform_fetch [Libraries] (session : Session) (source : EntitySource)
    (query : SelectQuery) : perform session (fetch source query) =
      (session.store.fetch source query, session.noting [.fetch source query]) := by
  rw [fetch, perform_record_bind, perform_get_bind, perform_lift, noting_store]

theorem perform_count [Libraries] (session : Session) (source : EntitySource)
    (query : SelectQuery) : perform session (count source query) =
      (session.store.count source query, session.noting [.count source query]) := by
  rw [count, perform_record_bind, perform_get_bind, perform_lift, noting_store]

theorem perform_insert_ok {session : Session} {source : EntitySource} {attributes : JsonFields}
    {store : Store} {row : Row} (h : session.store.insert source attributes = .ok (store, row)) :
    perform session (insert source attributes) =
      (.ok row, { session.noting [.insert source attributes] with store := store }) := by
  rw [insert, perform_record_bind, perform_get_bind,
    perform_lift_bind_ok (by rw [noting_store, h])]
  rfl

/-- An insertion that fails is noted and changes nothing else. -/
theorem perform_insert_error {session : Session} {source : EntitySource} {attributes : JsonFields}
    {failure : Failure} (h : session.store.insert source attributes = .error failure) :
    perform session (insert source attributes) =
      (.error failure, session.noting [.insert source attributes]) := by
  rw [insert, perform_record_bind, perform_get_bind]
  exact perform_bind_error (by rw [perform_lift, noting_store, h]) _

theorem perform_update (session : Session) (source : EntitySource) (key : Json)
    (attributes : JsonFields) :
    perform session (update source key attributes) =
      (.ok (session.store.update source key attributes).2,
        { session.noting [.update source key attributes] with
          store := (session.store.update source key attributes).1 }) := rfl

theorem perform_find [Libraries] (session : Session) (source : EntitySource)
    (query : SelectQuery) (key : Json) : perform session (find source query key) =
      ((session.store.fetch source (query.byKey source key)).map List.head?,
        session.noting [.fetch source (query.byKey source key)]) := by
  rw [find, perform_bind, perform_fetch]
  cases session.store.fetch source (query.byKey source key) <;> rfl

/-! ## Effects that only look at one table -/

/-- The effect keeps the store and the cache, and what it answers depends on nothing but the rows
of the table of the source. -/
structure ReadsOnly (source : EntitySource) (effect : Effect α) : Prop where
  store_eq : ∀ session, (perform session effect).2.store = session.store
  cache_eq : ∀ session, (perform session effect).2.cache = session.cache
  answer_eq : ∀ session other : Session,
    session.store.rows source.table = other.store.rows source.table →
      (perform session effect).1 = (perform other effect).1

namespace ReadsOnly

variable {source : EntitySource}

protected theorem pure (value : α) : ReadsOnly source (pure value : Effect α) :=
  ⟨fun _ => rfl, fun _ => rfl, fun _ _ _ => rfl⟩

protected theorem throw (failure : Failure) : ReadsOnly source (throw failure : Effect α) :=
  ⟨fun _ => rfl, fun _ => rfl, fun _ _ _ => rfl⟩

theorem lift (result : Except Failure α) : ReadsOnly source (liftExcept result) := by
  cases result with
  | ok value => exact .pure value
  | error failure => exact .throw failure

theorem of_except (result : Except RequestError α) : ReadsOnly source (ofExcept result) :=
  .lift _

theorem fetch [Libraries] (query : SelectQuery) :
    ReadsOnly source (Session.fetch source query) := by
  refine ⟨fun _ => ?_, fun _ => ?_, fun session other h => ?_⟩
  · rw [perform_fetch, noting_store]
  · rw [perform_fetch, noting_cache]
  · simp only [perform_fetch, Store.fetch, h]

theorem count [Libraries] (query : SelectQuery) :
    ReadsOnly source (Session.count source query) := by
  refine ⟨fun _ => ?_, fun _ => ?_, fun session other h => ?_⟩
  · rw [perform_count, noting_store]
  · rw [perform_count, noting_cache]
  · simp only [perform_count, Store.count, h]

/-- Looking at a table twice in a row is looking at it. -/
protected theorem bind {first : Effect α} {next : α → Effect β} (hfirst : ReadsOnly source first)
    (hnext : ∀ value, ReadsOnly source (next value)) : ReadsOnly source (first >>= next) := by
  -- What the second effect starts from has the store and the cache of the start.
  have hmiddle : ∀ session, (perform session first).2.store = session.store ∧
      (perform session first).2.cache = session.cache :=
    fun session => ⟨hfirst.store_eq session, hfirst.cache_eq session⟩
  refine ⟨fun session => ?_, fun session => ?_, fun session other h => ?_⟩
  · have hstart := (hmiddle session).1
    rw [perform_bind]
    rcases hrun : perform session first with ⟨_ | value, middle⟩
    · simpa only [hrun] using hstart
    · rw [hrun] at hstart
      exact ((hnext value).store_eq middle).trans hstart
  · have hstart := (hmiddle session).2
    rw [perform_bind]
    rcases hrun : perform session first with ⟨_ | value, middle⟩
    · simpa only [hrun] using hstart
    · rw [hrun] at hstart
      exact ((hnext value).cache_eq middle).trans hstart
  · have hanswer := hfirst.answer_eq session other h
    have hstore := (hmiddle session).1
    have hother := (hmiddle other).1
    rw [perform_bind, perform_bind]
    rcases hrun : perform session first with ⟨result, middle⟩
    rcases hrun' : perform other first with ⟨result', middle'⟩
    rw [hrun] at hanswer hstore
    rw [hrun'] at hanswer hother
    obtain rfl : result = result' := hanswer
    cases result with
    | error error => rfl
    | ok value =>
        refine (hnext value).answer_eq middle middle' ?_
        rw [show middle.store = session.store from hstore,
          show middle'.store = other.store from hother, h]

theorem find [Libraries] (query : SelectQuery) (key : Json) :
    ReadsOnly source (Session.find source query key) :=
  (fetch (query.byKey source key)).bind fun _ => .pure _

theorem paginate [Libraries] (query : SelectQuery) (perPage page : Nat) :
    ReadsOnly source (Session.paginate source query perPage page) :=
  (count query).bind fun _ => (lift _).bind fun _ => (fetch _).bind fun _ => .pure _

theorem decode_cursor (token : Option String) : ReadsOnly source (decodeCursor token) := by
  cases token with
  | none => exact .pure none
  | some token =>
      simp only [decodeCursor]
      split
      · exact .pure _
      · exact .throw _

theorem cursor_paginate [Libraries] (query : SelectQuery) (perPage : Nat)
    (token : Option String) :
    ReadsOnly source (Session.cursorPaginate source query perPage token) :=
  (decode_cursor token).bind fun _ => (lift _).bind fun _ => (fetch _).bind fun _ => .pure _

end ReadsOnly

/-! ## Effects that make certain calls only -/

@[simp] theorem noting_nil (session : Session) : session.noting [] = session := by
  simp [noting]

@[simp] theorem noting_noting (session : Session) (first second : List StoreCall) :
    (session.noting first).noting second = session.noting (first ++ second) := by
  simp [noting]

/-- The effect changes nothing but the journal, and the calls it notes there are allowed. -/
def CallsOnly (allowed : StoreCall → Prop) (effect : Effect α) : Prop :=
  ∀ session, ∃ calls, (perform session effect).2 = session.noting calls ∧
    ∀ call ∈ calls, allowed call

namespace CallsOnly

variable {allowed : StoreCall → Prop} {source : EntitySource} {query : SelectQuery}

protected theorem pure (value : α) : CallsOnly allowed (pure value : Effect α) :=
  fun session => ⟨[], (noting_nil session).symm, nofun⟩

protected theorem throw (failure : Failure) : CallsOnly allowed (throw failure : Effect α) :=
  fun session => ⟨[], (noting_nil session).symm, nofun⟩

theorem lift (result : Except Failure α) : CallsOnly allowed (liftExcept result) := by
  cases result with
  | ok value => exact .pure value
  | error failure => exact .throw failure

theorem fetch [Libraries] (h : allowed (.fetch source query)) :
    CallsOnly allowed (Session.fetch source query) :=
  fun session => ⟨[.fetch source query], by rw [perform_fetch], List.forall_mem_singleton.mpr h⟩

theorem count [Libraries] (h : allowed (.count source query)) :
    CallsOnly allowed (Session.count source query) :=
  fun session => ⟨[.count source query], by rw [perform_count], List.forall_mem_singleton.mpr h⟩

/-- The calls of a sequence are those of its parts. -/
protected theorem bind {first : Effect α} {next : α → Effect β} (hfirst : CallsOnly allowed first)
    (hnext : ∀ value, CallsOnly allowed (next value)) : CallsOnly allowed (first >>= next) := by
  intro session
  obtain ⟨calls, hcalls, hallowed⟩ := hfirst session
  rw [perform_bind]
  rcases hrun : perform session first with ⟨_ | value, middle⟩
  · rw [hrun] at hcalls
    exact ⟨calls, hcalls, hallowed⟩
  · rw [hrun] at hcalls
    obtain rfl : middle = session.noting calls := hcalls
    obtain ⟨others, hothers, hallowed'⟩ := hnext value (session.noting calls)
    refine ⟨calls ++ others, by rw [← noting_noting]; exact hothers, ?_⟩
    intro call hcall
    rcases List.mem_append.mp hcall with hcall | hcall
    · exact hallowed call hcall
    · exact hallowed' call hcall

/-- A page is fetched from wherever it starts. -/
theorem paginate [Libraries] {perPage page : Nat} (hcount : allowed (.count source query))
    (hfetch : ∀ offset,
      allowed (.fetch source (ClassicPage.query query (max perPage 1) offset))) :
    CallsOnly allowed (Session.paginate source query perPage page) :=
  (count hcount).bind fun _ => (lift _).bind fun offset =>
    (fetch (hfetch offset)).bind fun _ => .pure _

theorem decode_cursor (token : Option String) : CallsOnly allowed (decodeCursor token) := by
  cases token with
  | none => exact .pure none
  | some token =>
      simp only [decodeCursor]
      split
      · exact .pure _
      · exact .throw _

/-- A page of a walk is fetched from whatever position its token holds. -/
theorem cursor_paginate [Libraries] {perPage : Nat} (token : Option String)
    (hfetch : ∀ cursor,
      allowed (.fetch source (CursorPage.query query source (max perPage 1) cursor))) :
    CallsOnly allowed (Session.cursorPaginate source query perPage token) :=
  (decode_cursor token).bind fun cursor => (lift _).bind fun _ =>
    (fetch (hfetch cursor)).bind fun _ => .pure _

end CallsOnly

end Session

end EntityGate
