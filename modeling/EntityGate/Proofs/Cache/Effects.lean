import EntityGate.Cache.Groups
import EntityGate.Proofs.Session.Effects

/-!
# What effects do to a cache

Each operation on a cache that answers has one lemma that says what it returns and what it leaves.
Read `perform_flush` last: a group whose list is absent or can be read is removed without failing,
and what remains is the cache without the list and without the keys on it.
-/

namespace EntityGate

namespace Cache

variable {α β : Type}

/-- The result of an effect and the cache after it. -/
def perform (cache : Cache) (effect : CacheEffect α) : Except Failure α × Cache :=
  effect.run.run cache

/-- Calls to the cache are answered. -/
def Answers (cache : Cache) : Prop := cache.kind ≠ .failing

/-- The cache with other entries. -/
def holding (cache : Cache) (memory : MemoryCache) : Cache := { cache with memory := memory }

@[simp] theorem holding_memory (cache : Cache) (memory : MemoryCache) :
    (cache.holding memory).memory = memory := rfl

@[simp] theorem holding_kind (cache : Cache) (memory : MemoryCache) :
    (cache.holding memory).kind = cache.kind := rfl

@[simp] theorem holding_holding (cache : Cache) (memory other : MemoryCache) :
    (cache.holding memory).holding other = cache.holding other := rfl

@[simp] theorem holding_self (cache : Cache) : cache.holding cache.memory = cache := rfl

theorem Answers.holding {cache : Cache} (h : cache.Answers) (memory : MemoryCache) :
    (cache.holding memory).Answers := h

/-! ## Sequencing -/

@[simp] theorem perform_pure (cache : Cache) (value : α) :
    perform cache (pure value) = (.ok value, cache) := rfl

@[simp] theorem perform_throw (cache : Cache) (failure : Failure) :
    perform cache (throw failure : CacheEffect α) = (.error failure, cache) := rfl

theorem perform_bind (cache : Cache) (first : CacheEffect α) (next : α → CacheEffect β) :
    perform cache (first >>= next) =
      match perform cache first with
      | (.ok value, after) => perform after (next value)
      | (.error failure, after) => (.error failure, after) := by
  show ExceptT.bindCont next (perform cache first).1 (perform cache first).2 = _
  rcases perform cache first with ⟨_ | _, after⟩ <;> rfl

theorem perform_bind_ok {cache after : Cache} {first : CacheEffect α} {value : α}
    (h : perform cache first = (.ok value, after)) (next : α → CacheEffect β) :
    perform cache (first >>= next) = perform after (next value) := by
  rw [perform_bind, h]

@[simp] theorem perform_lift (cache : Cache) (result : Except Failure α) :
    perform cache (liftExcept result) = (result, cache) := by
  cases result <;> rfl

/-! ## Operations -/

theorem perform_available {cache : Cache} (h : cache.Answers) :
    perform cache available = (.ok cache.memory, cache) := by
  obtain ⟨kind, memory⟩ := cache
  cases kind with
  | memory | twoStep => rfl
  | failing => exact False.elim (h rfl)

theorem perform_set_memory (cache : Cache) (memory : MemoryCache) :
    perform cache (setMemory memory) = (.ok (), cache.holding memory) := rfl

theorem perform_read {cache : Cache} (h : cache.Answers) (key : String) :
    perform cache (read key) = (.ok (cache.memory.get? key), cache) :=
  perform_bind_ok (perform_available h) _

theorem perform_put {cache : Cache} (h : cache.Answers) (key : String) (value : Json)
    {seconds : Nat} (hseconds : seconds ≠ 0) :
    perform cache (put key value seconds) =
      (.ok (), cache.holding (cache.memory.put key value)) := by
  refine (perform_bind_ok (perform_available h) _).trans ?_
  rw [if_neg hseconds, perform_set_memory]

/-- A time to live of zero seconds is refused without an effect. -/
theorem perform_put_zero {cache : Cache} (h : cache.Answers) (key : String) (value : Json) :
    perform cache (put key value 0) =
      (.error (.reported (.cache ("zero ttl for key " ++ key))), cache) :=
  perform_bind_ok (perform_available h) _

theorem perform_forever {cache : Cache} (h : cache.Answers) (key : String) (value : Json) :
    perform cache (forever key value) =
      (.ok (), cache.holding (cache.memory.forever key value)) :=
  perform_bind_ok (perform_available h) _

theorem perform_forget {cache : Cache} (h : cache.Answers) (key : String) :
    perform cache (forget key) =
      (.ok (cache.memory.get? key).isSome, cache.holding (cache.memory.forget key)) :=
  perform_bind_ok (perform_available h) _

/-- Pulling a key answers what is under it and keeps the cache answering. -/
theorem perform_pull {cache : Cache} (h : cache.Answers) (key : String) :
    ∃ rest, perform cache (pull key) = (.ok (cache.memory.get? key), cache.holding rest) ∧
      (cache.kind = .memory → rest = (cache.memory.pull key).2) := by
  obtain ⟨kind, memory⟩ := cache
  cases kind with
  | failing => exact False.elim (h rfl)
  | memory =>
      refine ⟨(memory.pull key).2, ?_, fun _ => rfl⟩
      refine (perform_bind_ok (perform_available h) _).trans ?_
      -- Both parts are searched in the same order by reading and by pulling.
      have hvalue : (memory.pull key).1 = memory.get? key := by
        unfold MemoryCache.pull MemoryCache.get?
        cases memory.persistent.lookup key <;> rfl
      show (Except.ok (memory.pull key).1, _) = _
      rw [hvalue]
      rfl
  | twoStep =>
      refine ⟨if (memory.get? key).isSome then memory.forget key else memory, ?_, nofun⟩
      have hget : perform ⟨.twoStep, memory⟩ get = (.ok ⟨.twoStep, memory⟩, ⟨.twoStep, memory⟩) :=
        rfl
      refine (perform_bind_ok (perform_available h) _).trans ?_
      refine (perform_bind_ok hget _).trans ?_
      refine (perform_bind_ok (perform_read h key) _).trans ?_
      cases hvalue : memory.get? key with
      | none => simp [holding]
      | some value =>
          have hforget := perform_forget h key
          simp only [hvalue, Option.isSome_some, if_true] at hforget ⊢
          exact perform_bind_ok hforget _

end Cache

namespace CacheGroups

open Cache (perform)

/-- The list of a group is absent or can be read. -/
def Readable (groups : CacheGroups) (group : String) (cache : Cache) : Prop :=
  cache.Answers ∧ ∀ json, cache.memory.get? (groups.indexKey group) = some json →
    ∃ listed, Registration.listOfJson? json = some listed

/-- The registrations of a group, none when it has no list. -/
def listed (groups : CacheGroups) (group : String) (memory : MemoryCache) : List Registration :=
  ((memory.get? (groups.indexKey group)).bind Registration.listOfJson?).getD []

/-- The entries without those under the keys of registrations. -/
def without (memory : MemoryCache) (entries : List Registration) : MemoryCache :=
  entries.foldl (fun rest entry => rest.forget entry.key) memory

/-- How many of the keys of registrations are present when they are removed one after the other. -/
def countPresent : MemoryCache → List Registration → Nat
  | _, [] => 0
  | memory, entry :: rest =>
    countPresent (memory.forget entry.key) rest + (memory.get? entry.key).isSome.toNat

theorem perform_forget_all {cache : Cache} (h : cache.Answers) (entries : List Registration) :
    perform cache (forgetAll entries) =
      (.ok (countPresent cache.memory entries), cache.holding (without cache.memory entries)) := by
  induction entries generalizing cache with
  | nil => rfl
  | cons entry rest ih =>
      refine (Cache.perform_bind_ok (Cache.perform_forget h entry.key) _).trans ?_
      refine (Cache.perform_bind_ok (ih (h.holding (cache.memory.forget entry.key))) _).trans ?_
      simp [without, countPresent]

theorem perform_decode (cache : Cache) {stored : Option Json}
    (h : ∀ json, stored = some json → ∃ listed, Registration.listOfJson? json = some listed) :
    perform cache (decode stored) =
      (.ok ((stored.bind Registration.listOfJson?).getD []), cache) := by
  cases stored with
  | none => rfl
  | some json =>
      obtain ⟨listed, hlisted⟩ := h json rfl
      simp [decode, hlisted]

/-- A readable group is removed without failing. In the cache in memory the list goes first and
then every key on it. -/
theorem perform_flush {groups : CacheGroups} {group : String} {cache : Cache}
    (h : groups.Readable group cache) :
    ∃ count rest, perform cache (groups.flush group) = (.ok count, cache.holding rest) ∧
      (cache.kind = .memory → rest = without (cache.memory.pull (groups.indexKey group)).2
        (groups.listed group cache.memory)) := by
  obtain ⟨hanswers, hvalid⟩ := h
  obtain ⟨pulled, hpull, hpulled⟩ := Cache.perform_pull hanswers (groups.indexKey group)
  have hforget := perform_forget_all (hanswers.holding pulled) (groups.listed group cache.memory)
  refine ⟨countPresent pulled (groups.listed group cache.memory),
    without pulled (groups.listed group cache.memory), ?_, fun hkind => ?_⟩
  · refine (Cache.perform_bind_ok hpull _).trans ?_
    exact (Cache.perform_bind_ok (perform_decode _ hvalid) _).trans hforget
  · rw [hpulled hkind]

end CacheGroups

namespace Session

variable {α : Type}

theorem perform_on_cache (session : Session) (action : CacheEffect α) :
    perform session (onCache action) =
      ((Cache.perform session.cache action).1,
        { session with cache := (Cache.perform session.cache action).2 }) := rfl

end Session

end EntityGate
