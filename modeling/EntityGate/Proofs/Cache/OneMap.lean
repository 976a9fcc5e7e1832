import EntityGate.Proofs.Cache.Index
import Mathlib.Logic.Function.Basic

/-!
# One map behind two parts

The cache in memory answers every sequence of calls as a single map from keys to values does,
although it looks for a key in one part first and stops where it finds it. What carries this is that
no key is in both parts: see `Represents.step` for one call, `Represents.run` for a sequence of
them, and `answers_as_one_map` for a cache that starts empty. Times to live are whole seconds, and
no entry expires during the calls.
-/

namespace EntityGate

open Cache (perform)

/-- A call to a cache about one key. -/
inductive KeyCall where
  | put (key : String) (value : Json) (seconds : Nat)
  | forever (key : String) (value : Json)
  | forget (key : String)
  | pull (key : String)
  | get (key : String)

/-- What a call about a key answers. -/
inductive KeyAnswer where
  | stored
  | removed (wasPresent : Bool)
  | found (value : Option Json)

namespace KeyCall

/-- The call as an effect on a cache. -/
def effect : KeyCall → CacheEffect KeyAnswer
  | .put key value seconds => do
    Cache.put key value seconds
    return .stored
  | .forever key value => do
    Cache.forever key value
    return .stored
  | .forget key => return .removed (← Cache.forget key)
  | .pull key => return .found (← Cache.pull key)
  | .get key => return .found (← Cache.read key)

/-- What the call answers of a cache, and the cache after it. -/
def onCache (call : KeyCall) (cache : Cache) : Except Failure KeyAnswer × Cache :=
  perform cache call.effect

/-- What the call answers of one map, and the map after it. -/
def onMap (call : KeyCall) (map : String → Option Json) :
    Except Failure KeyAnswer × (String → Option Json) :=
  match call with
  | .put key value seconds =>
    if seconds = 0 then (.error (.reported (.cache ("zero ttl for key " ++ key))), map)
    else (.ok .stored, Function.update map key (some value))
  | .forever key value => (.ok .stored, Function.update map key (some value))
  | .forget key => (.ok (.removed (map key).isSome), Function.update map key none)
  | .pull key => (.ok (.found (map key)), Function.update map key none)
  | .get key => (.ok (.found (map key)), map)

end KeyCall

/-- What steps answer one after the other, and the state after all of them. -/
def runSteps {ι σ β : Type} (step : ι → σ → β × σ) : List ι → σ → List β × σ
  | [], state => ([], state)
  | input :: rest, state =>
    let first := step input state
    let others := runSteps step rest first.2
    (first.1 :: others.1, others.2)

/-- The cache is one in memory that holds what the map holds, and no key is in both of its parts. -/
structure Represents (cache : Cache) (map : String → Option Json) : Prop where
  kind : cache.kind = .memory
  apart : cache.memory.Apart
  get : ∀ key, cache.memory.get? key = map key

namespace Represents

variable {cache : Cache} {map : String → Option Json}

theorem empty : Represents {} fun _ => none where
  kind := rfl
  apart _ := .inl rfl
  get _ := rfl

theorem answers (h : Represents cache map) : cache.Answers := by
  rw [Cache.Answers, h.kind]
  nofun

/-- Other entries in which one key has changed represent the map with this change. -/
theorem holding (h : Represents cache map) {memory : MemoryCache} (hapart : memory.Apart)
    {key : String} {value : Option Json}
    (hget : ∀ other, memory.get? other = if other = key then value else cache.memory.get? other) :
    Represents (cache.holding memory) (Function.update map key value) where
  kind := h.kind
  apart := hapart
  get other := by
    rw [Cache.holding_memory, hget, Function.update_apply, h.get]

/-- A call answers of the cache what it answers of the map, and afterwards the cache represents the
map again. -/
theorem step (h : Represents cache map) (call : KeyCall) :
    (call.onCache cache).1 = (call.onMap map).1 ∧
      Represents (call.onCache cache).2 (call.onMap map).2 := by
  cases call with
  | put key value seconds =>
      by_cases hseconds : seconds = 0
      · subst hseconds
        have hput : KeyCall.onCache (.put key value 0) cache =
            (.error (.reported (.cache ("zero ttl for key " ++ key))), cache) := by
          rw [KeyCall.onCache, KeyCall.effect, Cache.perform_bind,
            Cache.perform_put_zero h.answers]
        rw [hput]
        exact ⟨rfl, h⟩
      · have hput : KeyCall.onCache (.put key value seconds) cache =
            (.ok .stored, cache.holding (cache.memory.put key value)) :=
          Cache.perform_bind_ok (Cache.perform_put h.answers key value hseconds) _
        rw [hput, KeyCall.onMap, if_neg hseconds]
        exact ⟨rfl, h.holding (h.apart.put key value) (MemoryCache.get_put _ key · value)⟩
  | forever key value =>
      have hforever : KeyCall.onCache (.forever key value) cache =
          (.ok .stored, cache.holding (cache.memory.forever key value)) :=
        Cache.perform_bind_ok (Cache.perform_forever h.answers key value) _
      rw [hforever]
      exact ⟨rfl, h.holding (h.apart.forever key value) (MemoryCache.get_forever _ key · value)⟩
  | forget key =>
      have hforget : KeyCall.onCache (.forget key) cache =
          (.ok (.removed (cache.memory.get? key).isSome),
            cache.holding (cache.memory.forget key)) :=
        Cache.perform_bind_ok (Cache.perform_forget h.answers key) _
      rw [hforget, h.get]
      exact ⟨rfl, h.holding (h.apart.forget key) (MemoryCache.get_forget _ key)⟩
  | pull key =>
      obtain ⟨rest, hperform, hrest⟩ := Cache.perform_pull h.answers key
      have hpull : KeyCall.onCache (.pull key) cache =
          (.ok (.found (cache.memory.get? key)), cache.holding (cache.memory.pull key).2) := by
        rw [← hrest h.kind]
        exact Cache.perform_bind_ok hperform _
      rw [hpull, h.get]
      exact ⟨rfl, h.holding (h.apart.pull key) (h.apart.get_pull key)⟩
  | get key =>
      have hget : KeyCall.onCache (.get key) cache =
          (.ok (.found (cache.memory.get? key)), cache) :=
        Cache.perform_bind_ok (Cache.perform_read h.answers key) _
      rw [hget, h.get]
      exact ⟨rfl, h⟩

/-- So do calls one after the other. -/
theorem run (h : Represents cache map) (calls : List KeyCall) :
    (runSteps KeyCall.onCache calls cache).1 = (runSteps KeyCall.onMap calls map).1 ∧
      Represents (runSteps KeyCall.onCache calls cache).2 (runSteps KeyCall.onMap calls map).2 := by
  induction calls generalizing cache map with
  | nil => exact ⟨rfl, h⟩
  | cons call rest ih =>
      obtain ⟨hanswer, hafter⟩ := h.step call
      obtain ⟨hanswers, hlast⟩ := ih hafter
      exact ⟨congrArg₂ List.cons hanswer hanswers, hlast⟩

end Represents

/-- A cache in memory that starts empty answers every sequence of calls as one map does. Whatever
the calls were, it then holds under every key what the map holds, no key is in both of its parts,
and to put a value for zero seconds fails and changes nothing. -/
theorem answers_as_one_map (calls : List KeyCall) :
    let cached := runSteps KeyCall.onCache calls {}
    let mapped := runSteps KeyCall.onMap calls fun _ => none
    cached.1 = mapped.1 ∧
    (∀ key, cached.2.memory.get? key = mapped.2 key) ∧
    (∀ key, cached.2.memory.persistent.lookup key = none ∨
      cached.2.memory.expiring.lookup key = none) ∧
    ∀ key value, perform cached.2 (Cache.put key value 0) =
      (.error (.reported (.cache ("zero ttl for key " ++ key))), cached.2) := by
  obtain ⟨hanswers, hlast⟩ := Represents.empty.run calls
  exact ⟨hanswers, hlast.get, hlast.apart, Cache.perform_put_zero hlast.answers⟩

/-- A value that was to stay gives way to one that expires, and nothing of it comes back. -/
example : (runSteps KeyCall.onCache
    [.forever "k" .null, .put "k" (.bool true) 60, .pull "k", .get "k", .forget "k"] {}).1 =
      [.ok .stored, .ok .stored, .ok (.found (some (.bool true))), .ok (.found none),
        .ok (.removed false)] :=
  rfl

end EntityGate
