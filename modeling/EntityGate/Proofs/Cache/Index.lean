import EntityGate.Proofs.Cache.Effects
import EntityGate.Proofs.Data.Entries
import EntityGate.Proofs.Data.Results

/-!
# Entries and their groups

What is found in the cache in memory after each operation, and what a group lists after a key was
registered in it. A list that was written by a registration is read back as it was: see
`list_of_json_to_json`.
-/

namespace EntityGate

namespace CacheEntries

theorem lookup_erase (entries : CacheEntries) (key other : String) :
    (erase entries key).lookup other = if other = key then none else entries.lookup other :=
  lookup_without entries key other

theorem lookup_put (entries : CacheEntries) (key other : String) (value : Json) :
    (put entries key value).lookup other =
      if other = key then some value else entries.lookup other := by
  by_cases hother : other = key
  · simp [put, hother]
  · simp [put, List.lookup_cons, beq_eq_false_iff_ne.mpr hother, lookup_erase, hother]

end CacheEntries

namespace MemoryCache

/-- No key is in both parts. -/
def Apart (cache : MemoryCache) : Prop :=
  ∀ key, cache.persistent.lookup key = none ∨ cache.expiring.lookup key = none

theorem get_put (cache : MemoryCache) (key other : String) (value : Json) :
    (cache.put key value).get? other = if other = key then some value else cache.get? other := by
  by_cases hother : other = key <;>
    simp [put, get?, CacheEntries.lookup_put, CacheEntries.lookup_erase, hother]

theorem get_forever (cache : MemoryCache) (key other : String) (value : Json) :
    (cache.forever key value).get? other =
      if other = key then some value else cache.get? other := by
  by_cases hother : other = key <;>
    simp [forever, get?, CacheEntries.lookup_put, CacheEntries.lookup_erase, hother]

theorem get_forget (cache : MemoryCache) (key other : String) :
    (cache.forget key).get? other = if other = key then none else cache.get? other := by
  by_cases hother : other = key <;> simp [forget, get?, CacheEntries.lookup_erase, hother]

namespace Apart

variable {cache : MemoryCache}

protected theorem put (h : cache.Apart) (key : String) (value : Json) :
    (cache.put key value).Apart := by
  intro other
  by_cases hother : other = key
  · simp [MemoryCache.put, CacheEntries.lookup_erase, hother]
  · simpa [MemoryCache.put, CacheEntries.lookup_put, CacheEntries.lookup_erase, hother]
      using h other

protected theorem forever (h : cache.Apart) (key : String) (value : Json) :
    (cache.forever key value).Apart := by
  intro other
  by_cases hother : other = key
  · simp [MemoryCache.forever, CacheEntries.lookup_erase, hother]
  · simpa [MemoryCache.forever, CacheEntries.lookup_put, CacheEntries.lookup_erase, hother]
      using h other

protected theorem forget (h : cache.Apart) (key : String) : (cache.forget key).Apart := by
  intro other
  by_cases hother : other = key
  · simp [MemoryCache.forget, CacheEntries.lookup_erase, hother]
  · simpa [MemoryCache.forget, CacheEntries.lookup_erase, hother] using h other

protected theorem pull (h : cache.Apart) (key : String) : (cache.pull key).2.Apart := by
  intro other
  unfold MemoryCache.pull
  by_cases hother : other = key
  · cases hkey : cache.persistent.lookup key with
    | some value => simp [CacheEntries.lookup_erase, hother]
    | none => simp [CacheEntries.lookup_erase, hother]
  · cases hkey : cache.persistent.lookup key with
    | some value => simpa [CacheEntries.lookup_erase, hother] using h other
    | none => simpa [CacheEntries.lookup_erase, hother] using h other

/-- A key that was pulled is gone, because it was in one part only. -/
theorem get_pull (h : cache.Apart) (key other : String) :
    (cache.pull key).2.get? other = if other = key then none else cache.get? other := by
  unfold MemoryCache.pull get?
  by_cases hother : other = key
  · subst hother
    cases hkey : cache.persistent.lookup other with
    | some value =>
        have hexpiring : cache.expiring.lookup other = none := by
          simpa [hkey] using h other
        simp [CacheEntries.lookup_erase, hexpiring]
    | none => simp [CacheEntries.lookup_erase, hkey]
  · cases hkey : cache.persistent.lookup key <;> simp [CacheEntries.lookup_erase, hother]

protected theorem without (h : cache.Apart) (entries : List Registration) :
    (CacheGroups.without cache entries).Apart :=
  List.foldlRecOn (motive := Apart) entries _ h fun _ hcache entry _ => hcache.forget entry.key

end Apart

theorem get_without (cache : MemoryCache) (entries : List Registration) (key : String) :
    (CacheGroups.without cache entries).get? key =
      if key ∈ entries.map Registration.key then none else cache.get? key := by
  induction entries generalizing cache with
  | nil => simp [CacheGroups.without]
  | cons entry rest ih =>
      have hstep : CacheGroups.without cache (entry :: rest) =
          CacheGroups.without (cache.forget entry.key) rest := rfl
      rw [hstep, ih, get_forget]
      by_cases hentry : key = entry.key <;> simp [hentry]

end MemoryCache

namespace Registration

/-- The second at which the registration expires is a signed integer of 64 bits. -/
def Signed (registration : Registration) : Prop :=
  ∀ second, registration.expiresAt = some second → second < 2 ^ 63

theorem signed_of_lt {second : Int} (h : second < 2 ^ 63) (key : String) :
    Signed ⟨key, some second⟩ := by
  rintro _ ⟨⟩
  exact h

theorem of_json_to_json {registration : Registration} (h : registration.Signed) :
    ofJson? registration.toJson = some registration := by
  obtain ⟨key, expiresAt⟩ := registration
  cases expiresAt with
  | none => rfl
  | some second =>
      have hsecond : second < 2 ^ 63 := h second rfl
      have hexpiry : expiryOfJson? (Json.ofInt second) = some (some second) := by
        simp only [expiryOfJson?, Json.ofInt, JsonNumber.toSigned?, if_pos hsecond,
          Option.map_some]
      show (expiryOfJson? (Json.ofInt second)).map _ = _
      rw [hexpiry]
      rfl

/-- A list of registrations is read back from its JSON form. -/
theorem list_of_json_to_json {entries : List Registration} (h : ∀ entry ∈ entries, entry.Signed) :
    listOfJson? (.array (entries.map toJson)) = some entries := by
  simp only [listOfJson?]
  induction entries with
  | nil => rfl
  | cons entry rest ih =>
      have hentry := of_json_to_json (h entry List.mem_cons_self)
      have hrest := ih fun other hother => h other (List.mem_cons_of_mem _ hother)
      simp [hentry, hrest]

end Registration

namespace CacheGroups

open Cache (perform)

variable {groups : CacheGroups} {group : String} {cache : Cache}

variable {expiresAt : Option Int}

theorem expiry_lt {seconds : Nat} {second : Int} (h : groups.expiry seconds = .ok second) :
    second < 2 ^ 63 := by
  obtain ⟨hbounds, rfl⟩ := Failure.signed64_eq_ok_iff.mp h
  exact hbounds.2

theorem expires_at_signed {seconds : Option Nat} (h : groups.expiresAt seconds = .ok expiresAt)
    (key : String) : Registration.Signed ⟨key, expiresAt⟩ := by
  cases seconds with
  | none =>
      cases h
      exact nofun
  | some seconds =>
      obtain ⟨second, hexpiry, rfl⟩ := except_map_eq_ok_iff.mp h
      exact Registration.signed_of_lt (expiry_lt hexpiry) key

theorem eq_aborted_of_expires_at {seconds : Option Nat} {failure : Failure}
    (h : groups.expiresAt seconds = .error failure) : failure = .aborted := by
  cases seconds with
  | none => cases h
  | some seconds => exact Failure.eq_aborted_of_signed64 (except_map_eq_error_iff.mp h)

/-- What a group lists after a registration. -/
def registering (groups : CacheGroups) (group key : String) (expiresAt : Option Int)
    (memory : MemoryCache) : List Registration :=
  ((groups.listed group memory).filter fun entry =>
    entry.isLive groups.now && entry.key != key) ++ [⟨key, expiresAt⟩]

/-- A registration in a readable group rewrites the list of the group, unless the second at which
the key expires cannot be told. -/
theorem perform_register (h : groups.Readable group cache) (key : String)
    (seconds : Option Nat) :
    perform cache (groups.register group key seconds) =
      match groups.expiresAt seconds with
      | .ok expiresAt => (.ok (), cache.holding (cache.memory.forever (groups.indexKey group)
          (.array ((groups.registering group key expiresAt cache.memory).map
            Registration.toJson))))
      | .error failure => (.error failure, cache) := by
  refine (Cache.perform_bind_ok (Cache.perform_read h.1 _) _).trans ?_
  refine (Cache.perform_bind_ok (perform_decode cache h.2) _).trans ?_
  rw [Cache.perform_bind, Cache.perform_lift]
  cases groups.expiresAt seconds with
  | error failure => rfl
  | ok expiresAt => exact Cache.perform_forever h.1 _ _

/-- The groups of one cache have different keys for their lists. -/
theorem index_key_injective {other : String} (h : groups.indexKey group = groups.indexKey other) :
    group = other := by
  unfold indexKey at h
  have hchars := congrArg String.toList h
  simp only [String.toList_append, List.append_cancel_left_eq] at hchars
  exact String.toList_inj.mp hchars

/-- The entries after a group was removed with everything that it lists. -/
def flushing (groups : CacheGroups) (group : String) (memory : MemoryCache) : MemoryCache :=
  without (memory.pull (groups.indexKey group)).2 (groups.listed group memory)

/-- The entries after a value was put under a key and the key was registered. -/
def keeping (groups : CacheGroups) (group key : String) (expiresAt : Option Int) (value : Json)
    (memory : MemoryCache) : MemoryCache :=
  (memory.put key value).forever (groups.indexKey group)
    (.array ((groups.registering group key expiresAt (memory.put key value)).map
      Registration.toJson))

variable {memory : MemoryCache} {key other : String} {value : Json}

theorem listed_congr {after : MemoryCache}
    (h : after.get? (groups.indexKey group) = memory.get? (groups.indexKey group)) :
    groups.listed group after = groups.listed group memory := by
  simp only [listed, h]

/-- Nothing that a removed group listed is left, and neither is its list. -/
theorem get_flushing (h : memory.Apart) (groups : CacheGroups) (group key : String) :
    (groups.flushing group memory).get? key =
      if key ∈ (groups.listed group memory).map Registration.key then none
      else if key = groups.indexKey group then none else memory.get? key := by
  rw [flushing, MemoryCache.get_without, h.get_pull]

theorem listed_flushing_self (h : memory.Apart) :
    groups.listed group (groups.flushing group memory) = [] := by
  rw [listed, get_flushing h]
  simp

/-- The removal of a group leaves the lists of the others alone. -/
theorem listed_flushing_of_ne (h : memory.Apart) (hother : other ≠ group)
    (hkeys : ∀ entry ∈ groups.listed group memory, entry.key ≠ groups.indexKey other) :
    groups.listed other (groups.flushing group memory) = groups.listed other memory := by
  refine listed_congr ?_
  have hunlisted : groups.indexKey other ∉ (groups.listed group memory).map Registration.key := by
    intro hmem
    obtain ⟨entry, hentry, hkey⟩ := List.mem_map.mp hmem
    exact hkeys entry hentry hkey
  have hindex : groups.indexKey other ≠ groups.indexKey group :=
    fun heq => hother (index_key_injective heq)
  rw [get_flushing h, if_neg hunlisted, if_neg hindex]

theorem get_keeping (groups : CacheGroups) (group key other : String) (expiresAt : Option Int)
    (value : Json) (memory : MemoryCache) (hother : other ≠ groups.indexKey group) :
    (groups.keeping group key expiresAt value memory).get? other =
      if other = key then some value else memory.get? other := by
  rw [keeping, MemoryCache.get_forever, if_neg hother, MemoryCache.get_put]

theorem get_keeping_index (hkey : key ≠ groups.indexKey group) :
    (groups.keeping group key expiresAt value memory).get? (groups.indexKey group) =
      some (.array ((groups.registering group key expiresAt memory).map
        Registration.toJson)) := by
  have hput : groups.listed group (memory.put key value) = groups.listed group memory := by
    refine listed_congr ?_
    rw [MemoryCache.get_put, if_neg (Ne.symm hkey)]
  rw [keeping, MemoryCache.get_forever, if_pos rfl]
  simp only [registering, hput]

theorem registering_signed (hnew : Registration.Signed ⟨key, expiresAt⟩)
    (hsigned : ∀ entry ∈ groups.listed group memory, entry.Signed) :
    ∀ entry ∈ groups.registering group key expiresAt memory, entry.Signed := by
  intro entry hentry
  rcases List.mem_append.mp hentry with hold | hlast
  · exact hsigned entry (List.mem_filter.mp hold).1
  · rwa [List.mem_singleton.mp hlast]

/-- The group of a key that was kept lists it last. -/
theorem listed_keeping_self (hkey : key ≠ groups.indexKey group)
    (hnew : Registration.Signed ⟨key, expiresAt⟩)
    (hsigned : ∀ entry ∈ groups.listed group memory, entry.Signed) :
    groups.listed group (groups.keeping group key expiresAt value memory) =
      groups.registering group key expiresAt memory := by
  rw [listed, get_keeping_index hkey, Option.bind_some,
    Registration.list_of_json_to_json (registering_signed hnew hsigned), Option.getD_some]

/-- A key that is kept leaves the lists of the other groups alone. -/
theorem listed_keeping_of_ne (hother : other ≠ group) (hkey : key ≠ groups.indexKey other) :
    groups.listed other (groups.keeping group key expiresAt value memory) =
      groups.listed other memory := by
  refine listed_congr ?_
  have hindex : groups.indexKey other ≠ groups.indexKey group :=
    fun heq => hother (index_key_injective heq)
  rw [get_keeping _ _ _ _ _ _ _ hindex, if_neg (Ne.symm hkey)]

end CacheGroups

end EntityGate
