import Mathlib.Data.List.Dedup
import Mathlib.Data.List.Induction
import EntityGate.Proofs.Cache.Index

/-!
# Groups as ordered sets of keys

In a cache in memory that starts empty, the list of a group holds the keys that were registered in
it since it was last flushed, each once, in the order of their latest registrations: see
`groups_list_registered_keys`. The lists are kept in the cache beside the entries that they are
about. What one call does to all lists is the step lemma of `ListsRegistrations`, the invariant of
a run. Times to live are whole seconds, as the groups read them.
-/

namespace EntityGate

open Cache (perform)

/-! ## Runs -/

/-- A call to a cache or to the groups of its keys. -/
inductive CacheCall where
  | register (group key : String) (seconds : Option Nat)
  | flush (group : String)
  | put (key : String) (value : Json) (seconds : Nat)
  | forever (key : String) (value : Json)
  | forget (key : String)
  | pull (key : String)

/-- The key that a call names, if it names one. -/
def CacheCall.key? : CacheCall → Option String
  | .register _ key _ | .put key _ _ | .forever key _ | .forget key | .pull key => some key
  | .flush _ => none

/-- A call at a second of the clock. -/
structure CacheEvent where
  now : Int
  call : CacheCall

namespace CacheEvent

/-- The groups of the cache as an event meets them. -/
def groups (event : CacheEvent) (keyStart : String) : CacheGroups := ⟨keyStart, event.now⟩

/-- The cache after an event. -/
def after (keyStart : String) (cache : Cache) (event : CacheEvent) : Cache :=
  match event.call with
  | .register group key seconds =>
    (perform cache ((event.groups keyStart).register group key seconds)).2
  | .flush group => (perform cache ((event.groups keyStart).flush group)).2
  | .put key value seconds => (perform cache (Cache.put key value seconds)).2
  | .forever key value => (perform cache (Cache.forever key value)).2
  | .forget key => (perform cache (Cache.forget key)).2
  | .pull key => (perform cache (Cache.pull key)).2

/-- What an event makes of the registrations in a group. None is made when the second at which the
key expires cannot be told. -/
def record (keyStart group : String) (made : List Registration) (event : CacheEvent) :
    List Registration :=
  match event.call with
  | .register other key seconds =>
    match (event.groups keyStart).expiresAt seconds with
    | .ok expiresAt => if other = group then made ++ [⟨key, expiresAt⟩] else made
    | .error _ => made
  | .flush other => if other = group then [] else made
  | .put .. | .forever .. | .forget .. | .pull .. => made

end CacheEvent

/-- The cache after events, from an empty one. -/
def cacheAfter (keyStart : String) (events : List CacheEvent) : Cache :=
  events.foldl (CacheEvent.after keyStart) {}

/-- The registrations made in a group since it was last flushed. -/
def registrations (keyStart group : String) (events : List CacheEvent) : List Registration :=
  events.foldl (CacheEvent.record keyStart group) []

/-- The latest registration of each key. -/
def Registration.latest (made : List Registration) : List Registration :=
  made.pwFilter fun earlier later => earlier.key ≠ later.key

/-- At a second of the clock no registration has expired that was not renewed or flushed. -/
def NoneExpired (keyStart : String) (events : List CacheEvent) (now : Int) : Prop :=
  ∀ group, ∀ entry ∈ Registration.latest (registrations keyStart group events),
    entry.isLive now = true

/-- A run of calls in which no registration expires and no call names a key under which the list
of a group is kept. -/
structure RegistrationRun (keyStart : String) (events : List CacheEvent) : Prop where
  unreserved : ∀ event ∈ events, ∀ key, event.call.key? = some key →
    ∀ group, key ≠ (CacheGroups.mk keyStart 0).indexKey group
  lasting : ∀ past event, past ++ [event] <+: events → NoneExpired keyStart past event.now

variable {keyStart group : String} {events : List CacheEvent} {event : CacheEvent}

theorem RegistrationRun.of_concat (h : RegistrationRun keyStart (events ++ [event])) :
    RegistrationRun keyStart events where
  unreserved other hother := h.unreserved other (List.mem_append_left _ hother)
  lasting past other hpast := h.lasting past other (hpast.trans (List.prefix_append events [event]))

theorem cache_after_concat : cacheAfter keyStart (events ++ [event]) =
    event.after keyStart (cacheAfter keyStart events) := by
  simp [cacheAfter]

theorem registrations_concat : registrations keyStart group (events ++ [event]) =
    event.record keyStart group (registrations keyStart group events) := by
  simp [registrations]

/-! ## The latest registrations -/

namespace Registration

theorem keys_latest (made : List Registration) :
    (latest made).map key = (made.map key).dedup := by
  unfold latest List.dedup
  rw [List.pwFilter_map]

/-- A registration is the latest of its key when none of this key follows. -/
theorem latest_cons (entry : Registration) (rest : List Registration) :
    latest (entry :: rest) =
      if ∀ later ∈ rest, entry.key ≠ later.key then entry :: latest rest else latest rest := by
  have hfollows : (∀ later ∈ latest rest, entry.key ≠ later.key) ↔
      ∀ later ∈ rest, entry.key ≠ later.key :=
    List.forall_mem_pwFilter (fun hne => (hne.ne_or_ne _).imp_right Ne.symm) entry rest
  simp only [← hfollows]
  rfl

/-- A new registration takes the place of an earlier one of its key, at the end. -/
theorem latest_concat (made : List Registration) (new : Registration) :
    latest (made ++ [new]) = (latest made).filter (fun entry => entry.key != new.key) ++ [new] := by
  induction made with
  | nil => rfl
  | cons entry rest ih =>
      rw [List.cons_append, latest_cons, latest_cons, ih]
      simp only [List.mem_append, List.mem_singleton, or_imp, forall_and, forall_eq]
      by_cases hkey : entry.key = new.key
      · rw [if_neg fun hboth => hboth.2 hkey]
        split
        · rw [List.filter_cons_of_neg (by simpa using hkey)]
        · rfl
      · simp only [ne_eq, hkey, not_false_eq_true, and_true]
        split
        · rw [List.filter_cons_of_pos (by simpa using hkey), List.cons_append]
        · rfl

end Registration

theorem CacheEvent.record_register {other key : String} {seconds : Option Nat}
    {expiresAt : Option Int} (hcall : event.call = .register other key seconds)
    (hexpiry : (event.groups keyStart).expiresAt seconds = .ok expiresAt)
    (made : List Registration) : event.record keyStart group made =
      if other = group then made ++ [⟨key, expiresAt⟩] else made := by
  simp only [record, hcall, hexpiry]

/-- What an event records in a group was there before or is what the event registers. -/
theorem CacheEvent.mem_record {made : List Registration} {entry : Registration}
    (h : entry ∈ event.record keyStart group made) :
    entry ∈ made ∨ ∃ seconds, event.call = .register group entry.key seconds ∧
      (event.groups keyStart).expiresAt seconds = .ok entry.expiresAt := by
  obtain ⟨now, call⟩ := event
  cases call with
  | register other key seconds =>
      cases hexpiry : (CacheEvent.groups ⟨now, .register other key seconds⟩ keyStart).expiresAt
          seconds with
      | error failure =>
          simp only [record, hexpiry] at h
          exact .inl h
      | ok expiresAt =>
          simp only [record, hexpiry] at h
          split at h
          · next hother =>
            rcases List.mem_append.mp h with hold | hnew
            · exact .inl hold
            · rw [List.mem_singleton.mp hnew, hother]
              exact .inr ⟨seconds, rfl, hexpiry⟩
          · exact .inl h
  | flush other =>
      simp only [record] at h
      split at h
      · exact (List.not_mem_nil h).elim
      · exact .inl h
  | put | forever | forget | pull => exact .inl h

/-- Every registration was made by an event. -/
theorem exists_event_of_registration {entry : Registration}
    (h : entry ∈ registrations keyStart group events) :
    ∃ event ∈ events, ∃ seconds, event.call = .register group entry.key seconds ∧
      (event.groups keyStart).expiresAt seconds = .ok entry.expiresAt := by
  induction events using List.reverseRecOn with
  | nil => exact (List.not_mem_nil h).elim
  | append_singleton events event ih =>
      rw [registrations_concat] at h
      rcases event.mem_record h with hold | hnew
      · obtain ⟨earlier, hearlier, hmade⟩ := ih hold
        exact ⟨earlier, List.mem_append_left _ hearlier, hmade⟩
      · exact ⟨event, List.mem_append_right _ (List.mem_singleton_self event), hnew⟩

theorem latest_signed : ∀ entry ∈ Registration.latest (registrations keyStart group events),
    entry.Signed := by
  intro entry hentry
  obtain ⟨event, -, seconds, -, hexpiry⟩ :=
    exists_event_of_registration (List.pwFilter_subset _ hentry)
  exact CacheGroups.expires_at_signed hexpiry entry.key

/-- In a run no key is registered under which the list of a group is kept. -/
theorem RegistrationRun.latest_unreserved (h : RegistrationRun keyStart events) :
    ∀ entry ∈ Registration.latest (registrations keyStart group events),
      ∀ other, entry.key ≠ (CacheGroups.mk keyStart 0).indexKey other := by
  intro entry hentry
  obtain ⟨event, hevent, seconds, hcall, -⟩ :=
    exists_event_of_registration (List.pwFilter_subset _ hentry)
  exact h.unreserved event hevent entry.key (by rw [hcall]; rfl)

/-! ## The lists of the groups -/

namespace CacheGroups

variable {groups : CacheGroups} {cache : Cache}

theorem get_index_forever (groups : CacheGroups) (group other : String) (value : Json)
    (memory : MemoryCache) :
    (memory.forever (groups.indexKey group) value).get? (groups.indexKey other) =
      if other = group then some value else memory.get? (groups.indexKey other) := by
  rw [MemoryCache.get_forever]
  by_cases hother : other = group
  · rw [hother, if_pos rfl, if_pos rfl]
  · rw [if_neg hother, if_neg fun heq => hother (index_key_injective heq)]

/-- Keys that are distinct are counted by what is present at the start. -/
theorem count_present_of_nodup {entries : List Registration}
    (h : (entries.map Registration.key).Nodup) (memory : MemoryCache) :
    countPresent memory entries = entries.countP fun entry => (memory.get? entry.key).isSome := by
  induction entries generalizing memory with
  | nil => rfl
  | cons entry rest ih =>
      obtain ⟨hfirst, hrest⟩ := List.nodup_cons.mp h
      have hsame : (rest.countP fun other => ((memory.forget entry.key).get? other.key).isSome) =
          rest.countP fun other => (memory.get? other.key).isSome := by
        refine List.countP_congr fun other hother => ?_
        have hne : other.key ≠ entry.key := fun heq =>
          hfirst (heq ▸ List.mem_map_of_mem hother)
        rw [MemoryCache.get_forget, if_neg hne]
      rw [countPresent, ih hrest, hsame, List.countP_cons]
      cases memory.get? entry.key <;> rfl

/-- In a cache in memory a flush counts the keys after its list was taken out. -/
theorem perform_flush_in_memory (h : groups.Readable group cache) (hkind : cache.kind = .memory) :
    perform cache (groups.flush group) =
      (.ok (countPresent (cache.memory.pull (groups.indexKey group)).2
        (groups.listed group cache.memory)),
        cache.holding (groups.flushing group cache.memory)) := by
  obtain ⟨pulled, hpull, hpulled⟩ := Cache.perform_pull h.1 (groups.indexKey group)
  obtain rfl := hpulled hkind
  refine (Cache.perform_bind_ok hpull _).trans ?_
  refine (Cache.perform_bind_ok (perform_decode _ h.2) _).trans ?_
  exact perform_forget_all (h.1.holding _) _

theorem perform_keys (h : groups.Readable group cache) : perform cache (groups.keys group) =
    (.ok (((groups.listed group cache.memory).filter (Registration.isLive groups.now)).map
      Registration.key), cache) := by
  refine (Cache.perform_bind_ok (Cache.perform_read h.1 _) _).trans ?_
  exact Cache.perform_bind_ok (perform_decode cache h.2) _

end CacheGroups

/-- In a cache in memory the list of every group can be read and holds the latest registrations of
the group. -/
structure ListsRegistrations (keyStart : String) (events : List CacheEvent) (cache : Cache) :
    Prop where
  in_memory : cache.kind = .memory
  apart : cache.memory.Apart
  readable : ∀ group, (CacheGroups.mk keyStart 0).Readable group cache
  listed : ∀ group, (CacheGroups.mk keyStart 0).listed group cache.memory =
    Registration.latest (registrations keyStart group events)

namespace ListsRegistrations

variable {cache : Cache} {memory : MemoryCache} {key : String} {seconds : Option Nat}
  {expiresAt : Option Int}

theorem empty : ListsRegistrations keyStart [] {} where
  in_memory := rfl
  apart _ := .inl rfl
  readable _ := ⟨nofun, nofun⟩
  listed _ := rfl

/-- What leaves the stored lists alone and registers nothing carries the invariant. -/
theorem of_same_lists (h : ListsRegistrations keyStart events cache) (hapart : memory.Apart)
    (hsame : ∀ group, memory.get? ((CacheGroups.mk keyStart 0).indexKey group) =
      cache.memory.get? ((CacheGroups.mk keyStart 0).indexKey group))
    (hrecord : ∀ group made, event.record keyStart group made = made) :
    ListsRegistrations keyStart (events ++ [event]) (cache.holding memory) where
  in_memory := h.in_memory
  apart := hapart
  readable group := by
    refine ⟨(h.readable group).1, fun json hjson => ?_⟩
    exact (h.readable group).2 json ((hsame group).symm.trans hjson)
  listed group := by
    rw [registrations_concat, hrecord, ← h.listed group]
    exact CacheGroups.listed_congr (hsame group)

/-- What a registration writes into the list of its group: nothing is dropped as expired. -/
theorem registering_eq (h : ListsRegistrations keyStart events cache)
    (hcall : event.call = .register group key seconds)
    (hexpiry : (event.groups keyStart).expiresAt seconds = .ok expiresAt)
    (hlive : NoneExpired keyStart events event.now) :
    (event.groups keyStart).registering group key expiresAt cache.memory =
      Registration.latest (registrations keyStart group (events ++ [event])) := by
  have hlisted : (event.groups keyStart).listed group cache.memory =
      Registration.latest (registrations keyStart group events) := h.listed group
  have hkept : (Registration.latest (registrations keyStart group events)).filter
        (fun entry => entry.isLive event.now && entry.key != key) =
      (Registration.latest (registrations keyStart group events)).filter
        (fun entry => entry.key != key) :=
    List.filter_congr fun entry hentry => by rw [hlive group entry hentry, Bool.true_and]
  rw [registrations_concat, event.record_register hcall hexpiry, if_pos rfl,
    Registration.latest_concat, ← hkept, ← hlisted]
  rfl

/-- A registration writes the list of its group anew and leaves the others alone. -/
theorem register (h : ListsRegistrations keyStart events cache)
    (hcall : event.call = .register group key seconds)
    (hexpiry : (event.groups keyStart).expiresAt seconds = .ok expiresAt)
    (hlive : NoneExpired keyStart events event.now) :
    ListsRegistrations keyStart (events ++ [event]) (event.after keyStart cache) := by
  let entries := Registration.latest (registrations keyStart group (events ++ [event]))
  have hafter : event.after keyStart cache = cache.holding (cache.memory.forever
      ((CacheGroups.mk keyStart 0).indexKey group) (.array (entries.map Registration.toJson))) := by
    have hreadable : (event.groups keyStart).Readable group cache := h.readable group
    rw [CacheEvent.after, hcall]
    dsimp only
    rw [CacheGroups.perform_register hreadable, hexpiry]
    dsimp only
    rw [h.registering_eq hcall hexpiry hlive]
    rfl
  have hread : Registration.listOfJson? (.array (entries.map Registration.toJson)) =
      some entries :=
    Registration.list_of_json_to_json latest_signed
  rw [hafter]
  refine ⟨h.in_memory, h.apart.forever _ _, fun other => ⟨(h.readable other).1, ?_⟩,
    fun other => ?_⟩
  · intro json hjson
    rw [Cache.holding_memory, CacheGroups.get_index_forever] at hjson
    split at hjson
    · exact ⟨entries, Option.some.inj hjson ▸ hread⟩
    · exact (h.readable other).2 json hjson
  · by_cases hother : other = group
    · rw [hother, CacheGroups.listed, Cache.holding_memory, CacheGroups.get_index_forever,
        if_pos rfl, Option.bind_some, hread, Option.getD_some]
    · have hsame : registrations keyStart other (events ++ [event]) =
          registrations keyStart other events := by
        rw [registrations_concat, event.record_register hcall hexpiry, if_neg (Ne.symm hother)]
      rw [hsame, ← h.listed other]
      refine CacheGroups.listed_congr ?_
      rw [Cache.holding_memory, CacheGroups.get_index_forever, if_neg hother]

/-- A registration that fails changes nothing. -/
theorem register_error (h : ListsRegistrations keyStart events cache)
    (hcall : event.call = .register group key seconds) {failure : Failure}
    (hexpiry : (event.groups keyStart).expiresAt seconds = .error failure) :
    ListsRegistrations keyStart (events ++ [event]) (event.after keyStart cache) := by
  have hafter : event.after keyStart cache = cache.holding cache.memory := by
    have hreadable : (event.groups keyStart).Readable group cache := h.readable group
    rw [CacheEvent.after, hcall]
    dsimp only
    rw [CacheGroups.perform_register hreadable, hexpiry]
    rfl
  rw [hafter]
  refine h.of_same_lists h.apart (fun _ => rfl) fun other made => ?_
  simp only [CacheEvent.record, hcall, hexpiry]

/-- A flush empties the list of its group and leaves the others alone. -/
theorem flush (h : ListsRegistrations keyStart events cache)
    (hrun : RegistrationRun keyStart events) (hcall : event.call = .flush group) :
    ListsRegistrations keyStart (events ++ [event])
      (cache.holding ((CacheGroups.mk keyStart 0).flushing group cache.memory)) := by
  refine ⟨h.in_memory, (h.apart.pull _).without _, fun other => ⟨(h.readable other).1, ?_⟩,
    fun other => ?_⟩
  · intro json hjson
    rw [Cache.holding_memory, CacheGroups.get_flushing h.apart] at hjson
    split at hjson
    · cases hjson
    · split at hjson
      · cases hjson
      · exact (h.readable other).2 json hjson
  · rw [registrations_concat, CacheEvent.record, hcall, Cache.holding_memory]
    dsimp only
    by_cases hother : other = group
    · rw [hother, if_pos rfl, CacheGroups.listed_flushing_self h.apart]
      rfl
    · rw [if_neg (Ne.symm hother), ← h.listed other]
      refine CacheGroups.listed_flushing_of_ne h.apart hother fun entry hentry => ?_
      rw [h.listed group] at hentry
      exact hrun.latest_unreserved entry hentry other

/-- Every event of a run carries the invariant. -/
theorem step (h : ListsRegistrations keyStart events cache)
    (hrun : RegistrationRun keyStart (events ++ [event])) :
    ListsRegistrations keyStart (events ++ [event]) (event.after keyStart cache) := by
  have hlive := hrun.lasting events event List.prefix_rfl
  have hunreserved (key : String) (hkey : event.call.key? = some key) (group : String) :
      (CacheGroups.mk keyStart 0).indexKey group ≠ key :=
    (hrun.unreserved event (List.mem_append_right _ (List.mem_singleton_self event)) key hkey
      group).symm
  have hanswers : cache.Answers := (h.readable "").1
  obtain ⟨now, call⟩ := event
  cases call with
  | register group key seconds =>
      cases hexpiry : (CacheEvent.groups ⟨now, .register group key seconds⟩ keyStart).expiresAt
          seconds with
      | ok expiresAt => exact h.register rfl hexpiry hlive
      | error failure => exact h.register_error rfl hexpiry
  | flush group =>
      have hflush := CacheGroups.perform_flush_in_memory
        (show (CacheGroups.mk keyStart now).Readable group cache from h.readable group) h.in_memory
      show ListsRegistrations keyStart _
        (perform cache ((CacheGroups.mk keyStart now).flush group)).2
      rw [hflush]
      exact h.flush hrun.of_concat rfl
  | put key value seconds =>
      show ListsRegistrations keyStart _ (perform cache (Cache.put key value seconds)).2
      by_cases hseconds : seconds = 0
      · rw [hseconds, Cache.perform_put_zero hanswers, ← cache.holding_self]
        exact h.of_same_lists h.apart (fun _ => rfl) fun _ _ => rfl
      · rw [Cache.perform_put hanswers key value hseconds]
        refine h.of_same_lists (h.apart.put key value) (fun group => ?_) fun _ _ => rfl
        rw [MemoryCache.get_put, if_neg (hunreserved key rfl group)]
  | forever key value =>
      show ListsRegistrations keyStart _ (perform cache (Cache.forever key value)).2
      rw [Cache.perform_forever hanswers]
      refine h.of_same_lists (h.apart.forever key value) (fun group => ?_) fun _ _ => rfl
      rw [MemoryCache.get_forever, if_neg (hunreserved key rfl group)]
  | forget key =>
      show ListsRegistrations keyStart _ (perform cache (Cache.forget key)).2
      rw [Cache.perform_forget hanswers]
      refine h.of_same_lists (h.apart.forget key) (fun group => ?_) fun _ _ => rfl
      rw [MemoryCache.get_forget, if_neg (hunreserved key rfl group)]
  | pull key =>
      obtain ⟨pulled, hpull, hpulled⟩ := Cache.perform_pull hanswers key
      show ListsRegistrations keyStart _ (perform cache (Cache.pull key)).2
      rw [hpull, hpulled h.in_memory]
      refine h.of_same_lists (h.apart.pull key) (fun group => ?_) fun _ _ => rfl
      rw [h.apart.get_pull, if_neg (hunreserved key rfl group)]

/-- The invariant holds after any run. -/
theorem of_run (hrun : RegistrationRun keyStart events) :
    ListsRegistrations keyStart events (cacheAfter keyStart events) := by
  induction events using List.reverseRecOn with
  | nil => exact empty
  | append_singleton events event ih =>
      rw [cache_after_concat]
      exact (ih hrun.of_concat).step hrun

/-- While none has expired, a group answers with the keys of its registrations. -/
theorem perform_keys (h : ListsRegistrations keyStart events cache) {now : Int}
    (hlive : NoneExpired keyStart events now) (group : String) :
    perform cache ((CacheGroups.mk keyStart now).keys group) =
      (.ok ((registrations keyStart group events).map Registration.key).dedup, cache) := by
  have hreadable : (CacheGroups.mk keyStart now).Readable group cache := h.readable group
  have hlisted : (CacheGroups.mk keyStart now).listed group cache.memory =
      Registration.latest (registrations keyStart group events) := h.listed group
  rw [CacheGroups.perform_keys hreadable, hlisted, List.filter_eq_self.mpr (hlive group),
    Registration.keys_latest]

/-- A flush answers how many keys of the group were there and removes them. -/
theorem perform_flush (h : ListsRegistrations keyStart events cache)
    (hrun : RegistrationRun keyStart events) (now : Int) (group : String) :
    let keys := ((registrations keyStart group events).map Registration.key).dedup
    ∃ left, perform cache ((CacheGroups.mk keyStart now).flush group) =
        (.ok (keys.countP fun key => (cache.memory.get? key).isSome), left) ∧
      (∀ key, left.memory.get? key =
        if key ∈ keys then none
        else if key = (CacheGroups.mk keyStart now).indexKey group then none
        else cache.memory.get? key) ∧
      ListsRegistrations keyStart (events ++ [⟨now, .flush group⟩]) left := by
  intro keys
  let groups : CacheGroups := ⟨keyStart, now⟩
  have hlisted : groups.listed group cache.memory =
      Registration.latest (registrations keyStart group events) := h.listed group
  have hkeys : keys = (groups.listed group cache.memory).map Registration.key := by
    rw [hlisted, Registration.keys_latest]
  have hflush := CacheGroups.perform_flush_in_memory
    (show groups.Readable group cache from h.readable group) h.in_memory
  -- The list itself is taken out first, but it is under no key of the group.
  have hcount : ∀ entry ∈ groups.listed group cache.memory,
      ((cache.memory.pull (groups.indexKey group)).2.get? entry.key).isSome =
        (cache.memory.get? entry.key).isSome := by
    intro entry hentry
    have hunreserved : entry.key ≠ groups.indexKey group :=
      hrun.latest_unreserved entry (hlisted ▸ hentry) group
    rw [h.apart.get_pull, if_neg hunreserved]
  refine ⟨_, hflush.trans ?_, fun key => ?_, h.flush hrun rfl⟩
  · rw [CacheGroups.count_present_of_nodup (hkeys ▸ List.nodup_dedup _), hkeys, List.countP_map,
      List.countP_congr fun entry hentry => by rw [hcount entry hentry]]
    rfl
  · rw [Cache.holding_memory, CacheGroups.get_flushing h.apart, hkeys]
    rfl

end ListsRegistrations

theorem registrations_flush (now : Int) (other : String) :
    registrations keyStart other (events ++ [⟨now, .flush group⟩]) =
      if group = other then [] else registrations keyStart other events :=
  registrations_concat

/-- A flush expires nothing. -/
theorem NoneExpired.flush {now : Int} (h : NoneExpired keyStart events now) (group : String) :
    NoneExpired keyStart (events ++ [⟨now, .flush group⟩]) now := by
  intro other entry hentry
  rw [registrations_flush] at hentry
  split at hentry
  · exact (List.not_mem_nil hentry).elim
  · exact h other entry hentry

/-- The groups of a cache are a family of ordered sets. After any run from an empty cache in memory,
a group answers with the keys that were registered in it since it was last flushed, each once, in
the order of their latest registrations. A flush removes exactly these keys and the list of the
group from the cache, answers how many of them were there, leaves the group empty and the other
groups as they were. A flush never fails, and neither does a registration whose second of expiry can
be told; any other registration is aborted and changes nothing. -/
theorem groups_list_registered_keys (hrun : RegistrationRun keyStart events) {now : Int}
    (hlive : NoneExpired keyStart events now) :
    let cache := cacheAfter keyStart events
    let groups : CacheGroups := ⟨keyStart, now⟩
    let keys (group : String) :=
      ((registrations keyStart group events).map Registration.key).dedup
    (∀ group, perform cache (groups.keys group) = (.ok (keys group), cache)) ∧
    (∀ group, ∃ left,
      perform cache (groups.flush group) =
        (.ok ((keys group).countP fun key => (cache.memory.get? key).isSome), left) ∧
      (∀ key, left.memory.get? key =
        if key ∈ keys group then none
        else if key = groups.indexKey group then none
        else cache.memory.get? key) ∧
      perform left (groups.keys group) = (.ok [], left) ∧
      ∀ other, other ≠ group → perform left (groups.keys other) = (.ok (keys other), left)) ∧
    ∀ group key seconds,
      match groups.expiresAt seconds with
      | .ok _ => ∃ left, perform cache (groups.register group key seconds) = (.ok (), left)
      | .error _ =>
        perform cache (groups.register group key seconds) = (.error .aborted, cache) := by
  intro cache groups keys
  have hlists : ListsRegistrations keyStart events cache := .of_run hrun
  refine ⟨hlists.perform_keys hlive, fun group => ?_, fun group key seconds => ?_⟩
  · obtain ⟨left, hflush, hentries, hleft⟩ := hlists.perform_flush hrun now group
    have hkeys := hleft.perform_keys (hlive.flush group)
    refine ⟨left, hflush, hentries, ?_, fun other hother => ?_⟩
    · rw [hkeys, registrations_flush, if_pos rfl]
      rfl
    · rw [hkeys, registrations_flush, if_neg (Ne.symm hother)]
  · have hreadable : groups.Readable group cache := hlists.readable group
    rw [CacheGroups.perform_register hreadable]
    cases hexpiry : groups.expiresAt seconds with
    | ok expiresAt => exact ⟨_, rfl⟩
    | error failure => rw [CacheGroups.eq_aborted_of_expires_at hexpiry]

/-- Two pages and their registrations in two groups, the first page registered twice in one. -/
def pageEvents : List CacheEvent := [
  ⟨0, .put "k1" (Json.ofNat 1) 60⟩,
  ⟨0, .register "posts" "k1" (some 60)⟩,
  ⟨1, .register "posts" "k2" none⟩,
  ⟨2, .register "posts" "k1" (some 60)⟩,
  ⟨2, .register "notes" "k1" none⟩]

/-- The page that is there goes with its group, which the other group does not show. -/
theorem groups_list_registered_pages :
    let cache := cacheAfter "gate" pageEvents
    let groups : CacheGroups := ⟨"gate", 3⟩
    perform cache (groups.keys "posts") = (.ok ["k2", "k1"], cache) ∧
      ∃ left, perform cache (groups.flush "posts") = (.ok 1, left) ∧
        left.memory.get? "k1" = none ∧ perform left (groups.keys "posts") = (.ok [], left) ∧
        perform left (groups.keys "notes") = (.ok ["k1"], left) := by
  intro cache groups
  have hlasting (past : List CacheEvent) (hpast : past ⊆ pageEvents) (now : Int) (hnow : now ≤ 3) :
      NoneExpired "gate" past now := by
    rintro group ⟨key, expiresAt⟩ hentry
    obtain ⟨event, hevent, seconds, hcall, hexpiry⟩ :=
      exists_event_of_registration (List.pwFilter_subset _ hentry)
    have hmade := hpast hevent
    simp only [pageEvents, List.mem_cons, List.not_mem_nil, or_false] at hmade
    have hseconds : expiresAt = some 60 ∨ expiresAt = some 62 ∨ expiresAt = none := by
      rcases hmade with rfl | rfl | rfl | rfl | rfl
      · cases hcall
      · cases hcall
        exact .inl (Except.ok.inj hexpiry).symm
      · cases hcall
        exact .inr (.inr (Except.ok.inj hexpiry).symm)
      · cases hcall
        exact .inr (.inl (Except.ok.inj hexpiry).symm)
      · cases hcall
        exact .inr (.inr (Except.ok.inj hexpiry).symm)
    rcases hseconds with rfl | rfl | rfl
    · exact decide_eq_true (by omega)
    · exact decide_eq_true (by omega)
    · rfl
  have hrun : RegistrationRun "gate" pageEvents := by
    refine ⟨fun event hevent key hkey group heq => ?_, fun past event hpast => ?_⟩
    · -- The keys start with another letter than the lists of the groups.
      have hstart : key.toList.head? = some 'k' := by
        simp only [pageEvents, List.mem_cons, List.not_mem_nil, or_false] at hevent
        rcases hevent with rfl | rfl | rfl | rfl | rfl
        all_goals
          cases hkey
          rfl
      rw [heq, CacheGroups.indexKey, String.toList_append, String.toList_append] at hstart
      exact absurd hstart (by simp)
    · have hnow : event.now ≤ 3 := by
        have hevent := hpast.subset (List.mem_append_right past (List.mem_singleton_self event))
        simp only [pageEvents, List.mem_cons, List.not_mem_nil, or_false] at hevent
        rcases hevent with rfl | rfl | rfl | rfl | rfl
        all_goals decide
      exact hlasting past ((List.prefix_append past [event]).trans hpast).subset event.now hnow
  obtain ⟨hkeys, hflush, -⟩ := groups_list_registered_keys hrun
    (hlasting pageEvents (List.Subset.refl _) 3 (Int.le_refl 3))
  obtain ⟨left, hanswer, hentries, hempty, hothers⟩ := hflush "posts"
  exact ⟨hkeys "posts", left, hanswer, hentries "k1", hempty, hothers "notes" (by decide)⟩

/-- Where nothing was registered before, and nothing has expired, a key that is to live for almost
2^63 seconds cannot be registered: the second at which it expires leaves 64 bits. -/
theorem distant_expiry_aborts :
    RegistrationRun "gate" [] ∧ NoneExpired "gate" [] 1 ∧
      perform (cacheAfter "gate" [])
        (CacheGroups.register ⟨"gate", 1⟩ "posts" "k1" (some (2 ^ 63 - 1))) =
          (.error .aborted, cacheAfter "gate" []) := by
  have hempty : ∀ now, NoneExpired "gate" [] now := fun _ _ _ hentry =>
    (List.not_mem_nil hentry).elim
  refine ⟨⟨nofun, fun past event hpast => ?_⟩, hempty 1, rfl⟩
  exact absurd (List.prefix_nil.mp hpast) (by simp)

end EntityGate
