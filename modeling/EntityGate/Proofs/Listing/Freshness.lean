import EntityGate.Proofs.Cache.Index
import EntityGate.Proofs.Gate.Mutation
import EntityGate.Proofs.Gate.Versions
import EntityGate.Proofs.Listing.Fingerprint

/-!
# No stale listing is served

A run lists versions of gates and runs their actions in any order, on one store and one cache.
`ListingInvariant` ties the three states together: what is kept in the cache is what a listing
would give on the store right now, and it is registered in the group of its gate. Read
`listing_is_fresh` for the result.
-/

namespace EntityGate

open Session (perform)

namespace GateVersion

section Listings

variable [Libraries] {gate : GateVersion} {validate : InputValidator} {groups : CacheGroups}
  {defaults : PaginationDefaults} {request : Request} {session : Session} {policy : CachePolicy}
  {group key : String}

/-! ## One listing -/

/-- What a listing gives on the store of a session, as JSON. -/
def freshList (gate : GateVersion) (validate : InputValidator) (defaults : PaginationDefaults)
    (request : Request) (session : Session) : Except Failure Json :=
  (perform session (gate.list validate defaults request)).1.map PageResult.toJson

theorem fresh_list_congr {other : Session}
    (h : session.store.rows gate.source.table = other.store.rows gate.source.table) :
    gate.freshList validate defaults request session =
      gate.freshList validate defaults request other := by
  unfold freshList
  rw [(list_reads gate validate defaults request).answer_eq session other h]

omit [Libraries] in
theorem listing_cache_eq_some_iff :
    gate.listingCache? = some (policy, group) ↔
      gate.baseQuery = none ∧ gate.cache = some policy ∧ policy.group gate.entity = group := by
  unfold listingCache?
  cases gate.baseQuery with
  | some base => simp
  | none =>
      cases gate.cache with
      | none => simp
      | some found =>
          simp only [Option.some.injEq, Prod.mk.injEq, true_and, and_congr_right_iff]
          rintro rfl
          rfl

omit [Libraries] in
/-- The key of a listing is no key of a list of a group. -/
theorem listing_key_ne_index_key (gate : GateVersion) (groups : CacheGroups) (request : Request)
    (group : String) : gate.listingKey groups.keyStart request ≠ groups.indexKey group := by
  intro h
  have hchars := congrArg String.toList h
  simp [listingKey, CacheGroups.indexKey] at hchars

omit [Libraries] in
/-- A listing is put under its key and then registered. -/
theorem perform_keep_listing (hreadable : groups.Readable group session.cache)
    (hindex : key ≠ groups.indexKey group) (hseconds : policy.ttl ≠ 0)
    {second : Int} (hexpiry : groups.expiry policy.ttl = .ok second) (listing : Json) :
    Cache.perform session.cache (keepListing groups policy group key listing) =
      (.ok (), session.cache.holding
        (groups.keeping group key (some second) listing session.cache.memory)) := by
  have hput : groups.Readable group
      (session.cache.holding (session.cache.memory.put key listing)) := by
    refine ⟨hreadable.1, fun json hjson => hreadable.2 json ?_⟩
    rwa [Cache.holding_memory, MemoryCache.get_put, if_neg (Ne.symm hindex)] at hjson
  refine (Cache.perform_bind_ok (Cache.perform_put hreadable.1 key listing hseconds) _).trans ?_
  rw [CacheGroups.perform_register hput, CacheGroups.expiresAt, hexpiry]
  rfl

/-- Without a cache policy, or with a base query, every listing is made anew. -/
theorem cached_list_unkept (h : gate.listingCache? = none) :
    (perform session (gate.cachedList validate groups defaults request)).1 =
        gate.freshList validate defaults request session ∧
      (perform session (gate.cachedList validate groups defaults request)).2.store = session.store ∧
      (perform session (gate.cachedList validate groups defaults request)).2.cache =
        session.cache := by
  have hreads : Session.ReadsOnly gate.source
      (gate.list validate defaults request >>= fun page => (pure page.toJson : Effect Json)) :=
    (list_reads gate validate defaults request).bind fun _ => .pure _
  have heq : gate.cachedList validate groups defaults request =
      gate.list validate defaults request >>= fun page => (pure page.toJson : Effect Json) := by
    simp only [cachedList, h]
  rw [heq]
  refine ⟨?_, hreads.store_eq session, hreads.cache_eq session⟩
  rw [Session.perform_bind]
  unfold freshList
  rcases perform session (gate.list validate defaults request) with ⟨_ | page, after⟩ <;> rfl

/-- What is under the key of a listing is served. -/
theorem cached_list_hit (h : gate.listingCache? = some (policy, group))
    (hanswers : session.cache.Answers) {value : Json}
    (hkept : session.cache.memory.get? (gate.listingKey groups.keyStart request) = some value) :
    perform session (gate.cachedList validate groups defaults request) = (.ok value, session) := by
  have hread : perform session (Session.onCache
      (Cache.read (gate.listingKey groups.keyStart request))) = (.ok (some value), session) := by
    rw [Session.perform_on_cache, Cache.perform_read hanswers, hkept]
  simp only [cachedList, h]
  rw [Session.perform_bind_ok hread]
  rfl

/-- A listing that is not kept is made anew. When it succeeds it is put under its key, registered
and served; when it fails the cache stays as it was. -/
theorem cached_list_miss (h : gate.listingCache? = some (policy, group))
    (hreadable : groups.Readable group session.cache) (hseconds : policy.ttl ≠ 0)
    {second : Int} (hexpiry : groups.expiry policy.ttl = .ok second)
    (hmissing : session.cache.memory.get? (gate.listingKey groups.keyStart request) = none) :
    let key := gate.listingKey groups.keyStart request
    let outcome := perform session (gate.cachedList validate groups defaults request)
    outcome.1 = gate.freshList validate defaults request session ∧
      outcome.2.store = session.store ∧
      ((∃ failure, outcome.1 = .error failure) ∧ outcome.2.cache = session.cache ∨
        ∃ listing, outcome.1 = .ok listing ∧
          outcome.2.cache = session.cache.holding
            (groups.keeping group key (some second) listing session.cache.memory)) := by
  intro key outcome
  have hread : perform session (Session.onCache (Cache.read key)) = (.ok none, session) := by
    rw [Session.perform_on_cache, Cache.perform_read hreadable.1, hmissing]
  have hstore := (list_reads gate validate defaults request).store_eq session
  have hcache := (list_reads gate validate defaults request).cache_eq session
  have hrun : outcome = perform session (gate.list validate defaults request >>= fun page =>
      Session.onCache (keepListing groups policy group key page.toJson) >>= fun _ =>
        pure page.toJson) := by
    simp only [outcome, cachedList, h]
    exact Session.perform_bind_ok hread _
  rcases hlist : perform session (gate.list validate defaults request) with ⟨failure | page, after⟩
  · rw [hlist] at hstore hcache
    rw [hrun, Session.perform_bind_error hlist]
    exact ⟨by simp [freshList, hlist, Except.map], hstore, .inl ⟨⟨failure, rfl⟩, hcache⟩⟩
  · rw [hlist] at hstore hcache
    have hkept : groups.Readable group after.cache := by
      rwa [show after.cache = session.cache from hcache]
    have hkeep := perform_keep_listing hkept
      (listing_key_ne_index_key gate groups request group) hseconds hexpiry page.toJson
    have hregister :=
      Session.perform_on_cache after (keepListing groups policy group key page.toJson)
    rw [hkeep] at hregister
    rw [hrun, Session.perform_bind_ok hlist, Session.perform_bind_ok hregister]
    refine ⟨by simp [freshList, hlist, Except.map], hstore, .inr ⟨page.toJson, rfl, ?_⟩⟩
    rw [← show after.cache = session.cache from hcache]
    rfl

end Listings

end GateVersion

/-! ## Runs -/

/-- What is asked of a version of a gate: a listing, or the run of an action. -/
inductive GateCall where
  | list
  | run (policy : Policy) (action : String) (identifier : Option String)

/-- A call to a version of a gate at a second of the clock. -/
structure GateEvent where
  now : Int
  version : GateVersion
  request : Request
  call : GateCall

namespace GateEvent

/-- The groups of the cache as an event meets them. -/
def groups (event : GateEvent) (keyStart : String) : CacheGroups := ⟨keyStart, event.now⟩

/-- The session after an event. -/
def after [Libraries] (keyStart : String) (validate : InputValidator)
    (defaults : PaginationDefaults) (event : GateEvent) (session : Session) : Session :=
  match event.call with
  | .list =>
    (perform session
      (event.version.cachedList validate (event.groups keyStart) defaults event.request)).2
  | .run policy action identifier =>
    (perform session (event.version.execute validate policy (some (event.groups keyStart))
      action identifier event.request)).2

end GateEvent

/-- A run of listings and default actions on gates that were built, whose entity types and tables
are different. Listings are asked for by query strings, what is kept expires at some second after
the run, and requests of different shapes are kept under different keys. -/
structure ListingRun (keyStart : String) (gates : List Gate) (events : List GateEvent) : Prop where
  built : ∀ gate ∈ gates, gate.Built
  apart : gates.Pairwise fun first second =>
    first.entity ≠ second.entity ∧ first.source.table ≠ second.source.table
  offered : ∀ event ∈ events, ∃ gate ∈ gates, gate.Offers event.version
  from_query : ∀ event ∈ events, event.call = .list → event.request.FromQuery
  default_handling : ∀ event ∈ events, ∀ policy name identifier,
    event.call = .run policy name identifier →
      ∀ action, event.version.action? name = some action → action.handler = none
  expiring : ∀ event ∈ events, event.call = .list → ∀ policy, event.version.cache = some policy →
    ∃ second, (event.groups keyStart).expiry policy.ttl = .ok second
  lasting : events.Pairwise fun event later => event.call = .list →
    ∀ policy, event.version.cache = some policy →
      ∀ second, (event.groups keyStart).expiry policy.ttl = .ok second → later.now < second
  no_collision : ∀ first ∈ events, ∀ second ∈ events, first.call = .list → second.call = .list →
    first.version.listingKey keyStart first.request =
        second.version.listingKey keyStart second.request →
      first.version.listingShape first.request = second.version.listingShape second.request

/-- A kept value is what a listing of the run gives on the store right now, and its key is
registered in the group of the gate. -/
structure KeptListing [Libraries] (keyStart : String) (validate : InputValidator)
    (defaults : PaginationDefaults) (session : Session) (event : GateEvent) (key : String)
    (value : Json) : Prop where
  is_list : event.call = .list
  key_eq : key = event.version.listingKey keyStart event.request
  fresh : event.version.freshList validate defaults event.request session = .ok value
  registered : ∃ policy group, event.version.listingCache? = some (policy, group) ∧
    key ∈ ((CacheGroups.mk keyStart 0).listed group session.cache.memory).map Registration.key

/-- What holds of the store and the cache before the remaining events of a run: every group can be
read and lists keys of listings that outlive the run, and every other entry of the cache is a kept
listing. -/
structure ListingInvariant [Libraries] (keyStart : String) (validate : InputValidator)
    (defaults : PaginationDefaults) (events remaining : List GateEvent) (session : Session) :
    Prop where
  in_memory : session.cache.kind = .memory
  apart : session.cache.memory.Apart
  readable : ∀ group, (CacheGroups.mk keyStart 0).Readable group session.cache
  listed : ∀ group, ∀ entry ∈ (CacheGroups.mk keyStart 0).listed group session.cache.memory,
    entry.Signed ∧ (∀ other, entry.key ≠ (CacheGroups.mk keyStart 0).indexKey other) ∧
      ∀ later ∈ remaining, entry.isLive later.now = true
  kept : ∀ key value, session.cache.memory.get? key = some value →
    (∃ group, key = (CacheGroups.mk keyStart 0).indexKey group) ∨
      ∃ event ∈ events, KeptListing keyStart validate defaults session event key value

variable {keyStart : String} {validate : InputValidator} {defaults : PaginationDefaults}
  {gates : List Gate} {events rest : List GateEvent} {event : GateEvent} {session after : Session}

namespace KeptListing

variable [Libraries] {key group : String} {value : Json} {policy : CachePolicy}

theorem registered_in (h : KeptListing keyStart validate defaults session event key value)
    (hgroup : event.version.listingCache? = some (policy, group)) :
    key ∈ ((CacheGroups.mk keyStart 0).listed group session.cache.memory).map
      Registration.key := by
  obtain ⟨found, other, hfound, hregistered⟩ := h.registered
  obtain ⟨rfl, rfl⟩ := Prod.mk.inj (Option.some.inj (hgroup.symm.trans hfound))
  exact hregistered

/-- A kept listing is still one after a step that leaves its table and its registration. -/
theorem carry (h : KeptListing keyStart validate defaults session event key value)
    (hstep : ∀ policy group, event.version.listingCache? = some (policy, group) →
      after.store.rows event.version.source.table =
          session.store.rows event.version.source.table ∧
        (key ∈ ((CacheGroups.mk keyStart 0).listed group session.cache.memory).map
            Registration.key →
          key ∈ ((CacheGroups.mk keyStart 0).listed group after.cache.memory).map
            Registration.key)) :
    KeptListing keyStart validate defaults after event key value := by
  obtain ⟨policy, group, hgroup, hregistered⟩ := h.registered
  obtain ⟨hrows, hlisted⟩ := hstep policy group hgroup
  refine ⟨h.is_list, h.key_eq, ?_, policy, group, hgroup, hlisted hregistered⟩
  rw [← h.fresh]
  exact GateVersion.fresh_list_congr hrows

end KeptListing

/-! ## Versions in a run -/

theorem eq_or_of_pairwise {α : Type _} {related : α → α → Prop} {items : List α} {first second : α}
    (h : items.Pairwise related) (hfirst : first ∈ items) (hsecond : second ∈ items) :
    first = second ∨ related first second ∨ related second first := by
  induction items with
  | nil => cases hfirst
  | cons item others ih =>
      obtain ⟨hitem, hothers⟩ := List.pairwise_cons.mp h
      rcases List.mem_cons.mp hfirst with rfl | hfirst' <;>
        rcases List.mem_cons.mp hsecond with rfl | hsecond'
      · exact .inl rfl
      · exact .inr (.inl (hitem second hsecond'))
      · exact .inr (.inr (hitem first hfirst'))
      · exact ih hothers hfirst' hsecond'

namespace ListingRun

variable {other : GateEvent}

/-- Versions that meet in an entity type or in a table are versions of one gate. -/
theorem one_gate (h : ListingRun keyStart gates events) (hevent : event ∈ events)
    (hother : other ∈ events)
    (hmeet : event.version.entity = other.version.entity ∨
      event.version.source.table = other.version.source.table) :
    ∃ gate ∈ gates, gate.Offers event.version ∧ gate.Offers other.version := by
  obtain ⟨gate, hgate, hoffers⟩ := h.offered event hevent
  obtain ⟨gate', hgate', hoffers'⟩ := h.offered other hother
  have hshares := (h.built gate hgate).offers_shares hoffers
  have hshares' := (h.built gate' hgate').offers_shares hoffers'
  obtain ⟨-, -, hsource, -⟩ := (h.built gate hgate).shares
  obtain ⟨-, -, hsource', -⟩ := (h.built gate' hgate').shares
  rw [hshares.entity_eq, hshares'.entity_eq, hshares.source_eq, hshares'.source_eq, hsource,
    hsource'] at hmeet
  obtain rfl : gate = gate' := by
    rcases eq_or_of_pairwise h.apart hgate hgate' with heq | hne | hne
    · exact heq
    · exact False.elim (hmeet.elim hne.1 hne.2)
    · exact False.elim (hmeet.elim (hne.1 ·.symm) (hne.2 ·.symm))
  exact ⟨gate, hgate, hoffers, hoffers'⟩

/-- Listings of the same shape are listings of the same version. -/
theorem version_eq (h : ListingRun keyStart gates events) (hevent : event ∈ events)
    (hother : other ∈ events) (hentity : event.version.entity = other.version.entity)
    (hname : event.version.version = other.version.version) : event.version = other.version := by
  obtain ⟨gate, hgate, hoffers, hoffers'⟩ := h.one_gate hevent hother (.inl hentity)
  exact (h.built gate hgate).version_unique hoffers hoffers' hname

/-- Versions on one table keep their listings in one group. -/
theorem group_eq (h : ListingRun keyStart gates events) (hevent : event ∈ events)
    (hother : other ∈ events) {policy : CachePolicy} {group : String}
    (hkept : other.version.listingCache? = some (policy, group))
    (htable : event.version.source.table = other.version.source.table) :
    event.version.cacheGroup = some group := by
  obtain ⟨gate, hgate, hoffers, hoffers'⟩ := h.one_gate hevent hother (.inr htable)
  have hshares := (h.built gate hgate).offers_shares hoffers
  have hshares' := (h.built gate hgate).offers_shares hoffers'
  obtain ⟨-, hcache, hgroup⟩ := GateVersion.listing_cache_eq_some_iff.mp hkept
  rw [hshares'.cache_eq] at hcache
  rw [hshares'.entity_eq] at hgroup
  simp only [GateVersion.cacheGroup, hshares.cache_eq, hcache, Option.map_some, hshares.entity_eq,
    hgroup]

theorem ttl_ne_zero (h : ListingRun keyStart gates events) (hevent : event ∈ events)
    {policy : CachePolicy} (hcache : event.version.cache = some policy) : policy.ttl ≠ 0 := by
  obtain ⟨gate, hgate, hoffers⟩ := h.offered event hevent
  have hshares := (h.built gate hgate).offers_shares hoffers
  obtain ⟨-, -, -, httl⟩ := (h.built gate hgate).shares
  exact httl policy (hshares.cache_eq ▸ hcache)

/-- Two listings of a run that are kept under one key give the same on every store. -/
theorem fresh_list_eq [Libraries] (h : ListingRun keyStart gates events) (hevent : event ∈ events)
    (hother : other ∈ events) (hlist : event.call = .list) (hlist' : other.call = .list)
    (hbase : event.version.baseQuery = none)
    (hkey : event.version.listingKey keyStart event.request =
      other.version.listingKey keyStart other.request) :
    event.version.freshList validate defaults event.request session =
      other.version.freshList validate defaults other.request session := by
  obtain ⟨hentity, hname, hfingerprint⟩ := GateVersion.listing_shape_injective
    (h.no_collision event hevent other hother hlist hlist' hkey)
  rw [← h.version_eq hevent hother hentity hname]
  unfold GateVersion.freshList
  rw [GateVersion.list_of_fingerprint_eq validate defaults hbase (h.from_query event hevent hlist)
    (h.from_query other hother hlist') hfingerprint]

end ListingRun

/-! ## What carries the invariant -/

namespace ListingInvariant

variable [Libraries]

/-- What is listed before an event and outlives the run also outlives what is left of the run. -/
theorem listed_rest (h : ListingInvariant keyStart validate defaults events (event :: rest) session)
    {group : String} {entry : Registration}
    (hentry : entry ∈ (CacheGroups.mk keyStart 0).listed group session.cache.memory) :
    entry.Signed ∧ (∀ other, entry.key ≠ (CacheGroups.mk keyStart 0).indexKey other) ∧
      ∀ later ∈ rest, entry.isLive later.now = true := by
  obtain ⟨hsigned, hkey, hlive⟩ := h.listed group entry hentry
  exact ⟨hsigned, hkey, fun later hlater => hlive later (List.mem_cons_of_mem _ hlater)⟩

/-- What is in the cache and on the tables of the kept listings carries the invariant. -/
theorem of_frame (h : ListingInvariant keyStart validate defaults events (event :: rest) session)
    (hcache : after.cache = session.cache)
    (hrows : ∀ kept ∈ events, kept.version.listingCache?.isSome →
      after.store.rows kept.version.source.table =
        session.store.rows kept.version.source.table) :
    ListingInvariant keyStart validate defaults events rest after := by
  refine ⟨by rw [hcache]; exact h.in_memory, by rw [hcache]; exact h.apart,
    fun group => by rw [hcache]; exact h.readable group, fun group entry hentry => ?_,
    fun key value hvalue => ?_⟩
  · rw [hcache] at hentry
    exact h.listed_rest hentry
  · rw [hcache] at hvalue
    rcases h.kept key value hvalue with hindex | ⟨kept, hmem, hkept⟩
    · exact .inl hindex
    · refine .inr ⟨kept, hmem, hkept.carry (fun policy group hgroup => ?_)⟩
      exact ⟨hrows kept hmem (by simp [hgroup]), by rw [hcache]; exact id⟩

/-! ## Removing a group -/

section Flushing

variable {group : String}

/-- The removal of a group leaves what the other groups list. -/
theorem listed_flush
    (h : ListingInvariant keyStart validate defaults events (event :: rest) session)
    (hmemory : after.cache.memory =
      (CacheGroups.mk keyStart 0).flushing group session.cache.memory)
    {other : String} (hother : other ≠ group) :
    (CacheGroups.mk keyStart 0).listed other after.cache.memory =
      (CacheGroups.mk keyStart 0).listed other session.cache.memory := by
  rw [hmemory]
  exact CacheGroups.listed_flushing_of_ne h.apart hother
    fun entry hentry => (h.listed group entry hentry).2.1 other

/-- What is in the cache after the removal of a group was there before and not listed in it. -/
theorem get_flush (h : ListingInvariant keyStart validate defaults events (event :: rest) session)
    (hmemory : after.cache.memory =
      (CacheGroups.mk keyStart 0).flushing group session.cache.memory)
    {key : String} {value : Json} (hvalue : after.cache.memory.get? key = some value) :
    session.cache.memory.get? key = some value ∧
      key ∉ ((CacheGroups.mk keyStart 0).listed group session.cache.memory).map
        Registration.key := by
  rw [hmemory, CacheGroups.get_flushing h.apart] at hvalue
  split at hvalue
  · cases hvalue
  · rename_i hunlisted
    split at hvalue
    · cases hvalue
    · exact ⟨hvalue, hunlisted⟩

/-- The removal of a group carries the invariant when the tables of the listings in other groups
stay. What the group listed is gone, whatever gate it was kept for. -/
theorem of_flush (h : ListingInvariant keyStart validate defaults events (event :: rest) session)
    (hcache : after.cache = session.cache.holding
      ((CacheGroups.mk keyStart 0).flushing group session.cache.memory))
    (hrows : ∀ kept ∈ events, ∀ policy other, kept.version.listingCache? = some (policy, other) →
      other ≠ group → after.store.rows kept.version.source.table =
        session.store.rows kept.version.source.table) :
    ListingInvariant keyStart validate defaults events rest after := by
  have hmemory : after.cache.memory =
      (CacheGroups.mk keyStart 0).flushing group session.cache.memory := by rw [hcache]; rfl
  refine ⟨by rw [hcache]; exact h.in_memory, ?_, fun other => ⟨?_, ?_⟩,
    fun other entry hentry => ?_, fun key value hvalue => ?_⟩
  · rw [hmemory]
    exact (h.apart.pull _).without _
  · rw [hcache]
    exact (h.readable other).1
  · intro json hjson
    exact (h.readable other).2 json (h.get_flush hmemory hjson).1
  · by_cases hother : other = group
    · subst hother
      rw [hmemory, CacheGroups.listed_flushing_self h.apart] at hentry
      cases hentry
    · rw [h.listed_flush hmemory hother] at hentry
      exact h.listed_rest hentry
  · obtain ⟨hold, hunlisted⟩ := h.get_flush hmemory hvalue
    rcases h.kept key value hold with hindex | ⟨kept, hmem, hkept⟩
    · exact .inl hindex
    · -- A listing of the group itself would have lost its key with the group.
      have hapart : ∀ policy other, kept.version.listingCache? = some (policy, other) →
          other ≠ group := by
        rintro policy other hgroup rfl
        exact hunlisted (hkept.registered_in hgroup)
      refine .inr ⟨kept, hmem, hkept.carry (fun policy other hgroup => ?_)⟩
      have hother := hapart policy other hgroup
      exact ⟨hrows kept hmem policy other hgroup hother,
        by rw [h.listed_flush hmemory hother]; exact id⟩

end Flushing

/-! ## Keeping a listing -/

section Keeping

variable {second : Int} {group : String} {listing : Json}

/-- Keeping a listing registers its key in the group of the gate. -/
theorem listed_keep_self
    (h : ListingInvariant keyStart validate defaults events (event :: rest) session)
    (hsecond : second < 2 ^ 63)
    (hmemory : after.cache.memory = (event.groups keyStart).keeping group
      (event.version.listingKey keyStart event.request) (some second) listing
        session.cache.memory) :
    (CacheGroups.mk keyStart 0).listed group after.cache.memory =
      (event.groups keyStart).registering group
        (event.version.listingKey keyStart event.request) (some second)
          session.cache.memory := by
  rw [hmemory]
  exact CacheGroups.listed_keeping_self
    (GateVersion.listing_key_ne_index_key _ (event.groups keyStart) _ group)
    (Registration.signed_of_lt hsecond _) fun entry hentry => (h.listed group entry hentry).1

omit [Libraries] in
/-- Keeping a listing leaves what the other groups list. -/
theorem listed_keep_of_ne
    (hmemory : after.cache.memory = (event.groups keyStart).keeping group
      (event.version.listingKey keyStart event.request) (some second) listing
        session.cache.memory) {other : String} (hother : other ≠ group) :
    (CacheGroups.mk keyStart 0).listed other after.cache.memory =
      (CacheGroups.mk keyStart 0).listed other session.cache.memory := by
  rw [hmemory]
  exact CacheGroups.listed_keeping_of_ne hother
    (GateVersion.listing_key_ne_index_key _ (event.groups keyStart) _ other)

/-- What a group lists after a listing was kept outlives the rest of the run. -/
theorem listed_keep (h : ListingInvariant keyStart validate defaults events (event :: rest) session)
    (hsecond : second < 2 ^ 63)
    (hlasting : ∀ later ∈ rest, later.now < second)
    (hmemory : after.cache.memory = (event.groups keyStart).keeping group
      (event.version.listingKey keyStart event.request) (some second) listing
        session.cache.memory) {other : String} {entry : Registration}
    (hentry : entry ∈ (CacheGroups.mk keyStart 0).listed other after.cache.memory) :
    entry.Signed ∧ (∀ name, entry.key ≠ (CacheGroups.mk keyStart 0).indexKey name) ∧
      ∀ later ∈ rest, entry.isLive later.now = true := by
  by_cases hother : other = group
  · subst hother
    rw [h.listed_keep_self hsecond hmemory] at hentry
    rcases List.mem_append.mp hentry with hold | hnew
    · exact h.listed_rest (List.mem_filter.mp hold).1
    · rw [List.mem_singleton.mp hnew]
      exact ⟨Registration.signed_of_lt hsecond _,
        GateVersion.listing_key_ne_index_key _ (event.groups keyStart) _,
        fun later hlater => decide_eq_true (hlasting later hlater)⟩
  · rw [listed_keep_of_ne hmemory hother] at hentry
    exact h.listed_rest hentry

/-- A key that was registered stays registered when a listing is kept under another key. -/
theorem registered_keep
    (h : ListingInvariant keyStart validate defaults events (event :: rest) session)
    (hsecond : second < 2 ^ 63)
    (hmemory : after.cache.memory = (event.groups keyStart).keeping group
      (event.version.listingKey keyStart event.request) (some second) listing
        session.cache.memory) {key other : String}
    (hkey : key ≠ event.version.listingKey keyStart event.request)
    (hlisted : key ∈ ((CacheGroups.mk keyStart 0).listed other session.cache.memory).map
      Registration.key) :
    key ∈ ((CacheGroups.mk keyStart 0).listed other after.cache.memory).map
      Registration.key := by
  by_cases hother : other = group
  · subst hother
    obtain ⟨entry, hentry, hentryKey⟩ := List.mem_map.mp hlisted
    -- What was registered before is still live, so that registering does not drop it.
    have hlive := (h.listed other entry hentry).2.2 event List.mem_cons_self
    rw [h.listed_keep_self hsecond hmemory]
    refine List.mem_map.mpr ⟨entry, List.mem_append_left _ ?_, hentryKey⟩
    refine List.mem_filter.mpr ⟨hentry, ?_⟩
    simp only [Bool.and_eq_true, bne_iff_ne, ne_eq, hentryKey]
    exact ⟨hlive, hkey⟩
  · rwa [listed_keep_of_ne hmemory hother]

/-- Every group can be read after a listing was kept. -/
theorem readable_keep
    (h : ListingInvariant keyStart validate defaults events (event :: rest) session)
    (hsecond : second < 2 ^ 63)
    (hanswers : session.cache.Answers → after.cache.Answers)
    (hmemory : after.cache.memory = (event.groups keyStart).keeping group
      (event.version.listingKey keyStart event.request) (some second) listing
        session.cache.memory) (other : String) :
    (CacheGroups.mk keyStart 0).Readable other after.cache := by
  have hindex : event.version.listingKey keyStart event.request ≠
      (event.groups keyStart).indexKey other :=
    GateVersion.listing_key_ne_index_key _ (event.groups keyStart) _ other
  refine ⟨hanswers (h.readable other).1, fun json hjson => ?_⟩
  rw [hmemory] at hjson
  by_cases hother : other = group
  · subst hother
    have hsigned : ∀ entry ∈ (event.groups keyStart).listed other session.cache.memory,
        entry.Signed := fun entry hentry => (h.listed other entry hentry).1
    rw [← Option.some.inj ((CacheGroups.get_keeping_index hindex).symm.trans hjson)]
    exact ⟨_, Registration.list_of_json_to_json (CacheGroups.registering_signed
      (Registration.signed_of_lt hsecond _) hsigned)⟩
  · have hne : (event.groups keyStart).indexKey other ≠ (event.groups keyStart).indexKey group :=
      fun heq => hother (CacheGroups.index_key_injective heq)
    refine (h.readable other).2 json (Eq.trans ?_ hjson)
    show session.cache.memory.get? ((event.groups keyStart).indexKey other) =
      MemoryCache.get? _ ((event.groups keyStart).indexKey other)
    rw [CacheGroups.get_keeping _ _ _ _ _ _ _ hne, if_neg (Ne.symm hindex)]

/-- A listing that is kept carries the invariant. -/
theorem of_keep (h : ListingInvariant keyStart validate defaults events (event :: rest) session)
    (hmem : event ∈ events) (hlist : event.call = .list)
    (hgroup : event.version.listingCache? = some (policy, group))
    (hfresh : event.version.freshList validate defaults event.request session = .ok listing)
    (hsecond : second < 2 ^ 63)
    (hlasting : ∀ later ∈ rest, later.now < second)
    (hstore : after.store = session.store)
    (hcache : after.cache = session.cache.holding ((event.groups keyStart).keeping group
      (event.version.listingKey keyStart event.request) (some second) listing
      session.cache.memory)) :
    ListingInvariant keyStart validate defaults events rest after := by
  have hmemory : after.cache.memory = (event.groups keyStart).keeping group
      (event.version.listingKey keyStart event.request) (some second) listing
        session.cache.memory := by rw [hcache]; rfl
  refine ⟨by rw [hcache]; exact h.in_memory, ?_,
    h.readable_keep hsecond (by rw [hcache]; exact id) hmemory,
    fun other entry hentry => h.listed_keep hsecond hlasting hmemory hentry,
    fun name value hvalue => ?_⟩
  · rw [hmemory]
    exact (h.apart.put _ _).forever _ _
  · by_cases hname : name = (event.groups keyStart).indexKey group
    · exact .inl ⟨group, hname⟩
    rw [hmemory, CacheGroups.get_keeping _ _ _ _ _ _ _ hname] at hvalue
    by_cases hkey : name = event.version.listingKey keyStart event.request
    · rw [if_pos hkey, Option.some.injEq] at hvalue
      subst hvalue
      refine .inr ⟨event, hmem, hlist, hkey, ?_, policy, group, hgroup, ?_⟩
      · rw [← hfresh]
        exact GateVersion.fresh_list_congr (by rw [hstore])
      · rw [h.listed_keep_self hsecond hmemory, hkey]
        simp [CacheGroups.registering]
    · rw [if_neg hkey] at hvalue
      rcases h.kept name value hvalue with hindexed | ⟨kept, hkeptMem, hkept⟩
      · exact .inl hindexed
      · refine .inr ⟨kept, hkeptMem, hkept.carry (fun _ _ _ => ?_)⟩
        exact ⟨by rw [hstore], h.registered_keep hsecond hmemory hkey⟩

end Keeping

/-! ## The steps of a run -/

/-- A listing answers what is fresh and carries the invariant. -/
theorem step_list (hrun : ListingRun keyStart gates events)
    (h : ListingInvariant keyStart validate defaults events (event :: rest) session)
    (hmem : event ∈ events) (hlist : event.call = .list)
    (hlasting : ∀ later ∈ rest, ∀ policy, event.version.cache = some policy →
      ∀ second, (event.groups keyStart).expiry policy.ttl = .ok second → later.now < second) :
    let outcome := perform session
      (event.version.cachedList validate (event.groups keyStart) defaults event.request)
    outcome.1 = event.version.freshList validate defaults event.request session ∧
      ListingInvariant keyStart validate defaults events rest outcome.2 := by
  intro outcome
  cases hcached : event.version.listingCache? with
  | none =>
      obtain ⟨hanswer, hstore, hcache⟩ := GateVersion.cached_list_unkept hcached
      exact ⟨hanswer, h.of_frame hcache fun _ _ _ => by rw [hstore]⟩
  | some found =>
      obtain ⟨policy, group⟩ := found
      obtain ⟨hbase, hpolicy, -⟩ := GateVersion.listing_cache_eq_some_iff.mp hcached
      cases hvalue : session.cache.memory.get?
        (event.version.listingKey keyStart event.request) with
      | some value =>
          have hhit : outcome = (.ok value, session) :=
            GateVersion.cached_list_hit hcached (h.readable group).1 hvalue
          rw [hhit]
          refine ⟨?_, h.of_frame rfl fun _ _ _ => rfl⟩
          -- The value was kept for a listing of the same shape, which is one of the same version.
          rcases h.kept _ _ hvalue with ⟨other, hindex⟩ | ⟨kept, hkeptMem, hkept⟩
          · exact False.elim (GateVersion.listing_key_ne_index_key event.version
              (event.groups keyStart) event.request other hindex)
          · rw [← hkept.fresh]
            exact (hrun.fresh_list_eq hmem hkeptMem hlist hkept.is_list hbase hkept.key_eq).symm
      | none =>
          obtain ⟨second, hexpiry⟩ := hrun.expiring event hmem hlist policy hpolicy
          obtain ⟨hanswer, hstore, hkeeping⟩ := GateVersion.cached_list_miss hcached
            (show (event.groups keyStart).Readable group session.cache from h.readable group)
            (hrun.ttl_ne_zero hmem hpolicy) hexpiry hvalue
          refine ⟨hanswer, ?_⟩
          rcases hkeeping with ⟨-, hcache⟩ | ⟨listing, hok, hcache⟩
          · exact h.of_frame hcache fun _ _ _ => by rw [hstore]
          · exact h.of_keep hmem hlist hcached (hanswer.symm.trans hok)
              (CacheGroups.expiry_lt hexpiry)
              (fun later hlater => hlasting later hlater policy hpolicy second hexpiry) hstore
              hcache

/-- An action without a handler of its own carries the invariant: a failure changes nothing, and a
success changes one table and removes the group of the listings on it. -/
theorem step_run (hrun : ListingRun keyStart gates events)
    (h : ListingInvariant keyStart validate defaults events (event :: rest) session)
    (hmem : event ∈ events) {policy : Policy} {name : String} {identifier : Option String}
    (hcall : event.call = .run policy name identifier) :
    ListingInvariant keyStart validate defaults events rest
      (perform session (event.version.execute validate policy (some (event.groups keyStart))
        name identifier event.request)).2 := by
  have hdefault := hrun.default_handling event hmem policy name identifier hcall
  rcases hexecute : perform session (event.version.execute validate policy
    (some (event.groups keyStart)) name identifier event.request) with ⟨error | outcome, after⟩
  · have hframe := GateVersion.execute_error_frame hdefault
      (fun kept group hkept _ => by
        obtain rfl := Option.some.inj hkept
        exact h.readable group)
      (congrArg Prod.fst hexecute)
    rw [hexecute] at hframe
    exact h.of_frame hframe.2 fun _ _ _ => by rw [show after.store = _ from hframe.1]
  · cases haction : event.version.action? name with
    | none => simp [GateVersion.execute, haction] at hexecute
    | some action =>
        obtain ⟨entity, accepted, -, -, hstore, hcache⟩ :=
          GateVersion.execute_ok_effects haction (hdefault action haction) hexecute
        have hrows (other : String) (hother : other ≠ event.version.source.table) :
            after.store.rows other = session.store.rows other := by
          exact congrArg Table.rows (GateVersion.default_write_table_of_ne hstore hother)
        cases hmutation : action.kind.isMutation with
        | false =>
            have hkind : action.kind = .custom := by
              cases hkind : action.kind <;> simp [hkind, ActionKind.isMutation] at hmutation ⊢
            rw [hkind] at hstore hcache
            exact h.of_frame hcache fun _ _ _ => by rw [← Except.ok.inj hstore]
        | true =>
            rw [hmutation, if_pos rfl] at hcache
            cases hgroup : event.version.cacheGroup with
            | none =>
                simp only [GateVersion.flushed, hgroup] at hcache
                refine h.of_frame hcache fun kept hkeptMem hkept => hrows _ fun htable => ?_
                obtain ⟨⟨_, group⟩, hkept⟩ := Option.isSome_iff_exists.mp hkept
                simp [hrun.group_eq hmem hkeptMem hkept htable.symm] at hgroup
            | some group =>
                obtain ⟨_, left, hflush, hleft⟩ := CacheGroups.perform_flush
                  (show (event.groups keyStart).Readable group session.cache from h.readable group)
                simp only [GateVersion.flushed, hgroup, hflush, hleft h.in_memory] at hcache
                refine h.of_flush hcache fun kept hkeptMem _ other hkept hother =>
                  hrows _ fun htable => hother ?_
                have hsame := hrun.group_eq hmem hkeptMem hkept htable.symm
                exact Option.some.inj (hsame.symm.trans hgroup)

/-- Every event of a run carries the invariant. -/
theorem step (hrun : ListingRun keyStart gates events)
    (h : ListingInvariant keyStart validate defaults events (event :: rest) session)
    (hsuffix : event :: rest <:+ events) :
    ListingInvariant keyStart validate defaults events rest
      (event.after keyStart validate defaults session) := by
  have hmem : event ∈ events := hsuffix.subset List.mem_cons_self
  unfold GateEvent.after
  cases hcall : event.call with
  | list =>
      refine (step_list hrun h hmem hcall fun later hlater policy hpolicy => ?_).2
      have hlasting := hrun.lasting.sublist hsuffix.sublist
      exact List.rel_of_pairwise_cons hlasting hlater hcall policy hpolicy
  | run policy name identifier =>
      exact step_run hrun h hmem hcall

/-- The invariant holds after any part of a run. -/
theorem of_run (hrun : ListingRun keyStart gates events) {past : List GateEvent}
    (h : ListingInvariant keyStart validate defaults events (past ++ rest) session)
    (hsuffix : past ++ rest <:+ events) :
    ListingInvariant keyStart validate defaults events rest
      (past.foldl (fun session event => event.after keyStart validate defaults session)
        session) := by
  induction past generalizing session with
  | nil => exact h
  | cons event past ih =>
      exact ih (step hrun h hsuffix) ((List.suffix_cons event (past ++ rest)).trans hsuffix)

end ListingInvariant

end EntityGate
