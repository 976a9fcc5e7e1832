import EntityGate.Request.RequestError

/-!
# Caches

The cache in memory has two parts: entries with a time to live, and entries that stay until they
are taken out. A key is in one part at a time. Behind the same operations stand two variants: one
that reads and removes in two steps, and one that fails at every call.

A time to live is a number of whole seconds. No entry expires here: what is modelled is the cache
between two expiries, where a time to live only says in which part an entry stands.
-/

namespace EntityGate

/-- Entries by key. -/
abbrev CacheEntries := List (String × Json)

/-- The two parts of the cache in memory. -/
structure MemoryCache where
  expiring : CacheEntries := []
  persistent : CacheEntries := []
  deriving Repr, Inhabited

namespace CacheEntries

/-- The entries without a key. -/
def erase (entries : CacheEntries) (key : String) : CacheEntries :=
  entries.filter fun entry => entry.1 != key

/-- The entries with a value under a key. -/
def put (entries : CacheEntries) (key : String) (value : Json) : CacheEntries :=
  (key, value) :: erase entries key

end CacheEntries

namespace MemoryCache

/-- The value under a key, wherever it is. -/
def get? (cache : MemoryCache) (key : String) : Option Json :=
  cache.persistent.lookup key <|> cache.expiring.lookup key

/-- The cache with an expiring entry. -/
def put (cache : MemoryCache) (key : String) (value : Json) : MemoryCache :=
  { expiring := CacheEntries.put cache.expiring key value
    persistent := CacheEntries.erase cache.persistent key }

/-- The cache with an entry that stays. -/
def forever (cache : MemoryCache) (key : String) (value : Json) : MemoryCache :=
  { expiring := CacheEntries.erase cache.expiring key
    persistent := CacheEntries.put cache.persistent key value }

/-- The cache without a key in either part. -/
def forget (cache : MemoryCache) (key : String) : MemoryCache :=
  { expiring := CacheEntries.erase cache.expiring key
    persistent := CacheEntries.erase cache.persistent key }

/-- The value under a key, and the cache without it in the part where it was found. -/
def pull (cache : MemoryCache) (key : String) : Option Json × MemoryCache :=
  match cache.persistent.lookup key with
  | some value => (some value, { cache with persistent := CacheEntries.erase cache.persistent key })
  | none =>
    (cache.expiring.lookup key, { cache with expiring := CacheEntries.erase cache.expiring key })

end MemoryCache

/-- How a cache behaves. -/
inductive CacheKind where
  | memory
  | twoStep
  | failing
  deriving DecidableEq, Repr, Inhabited

/-- A cache. -/
structure Cache where
  kind : CacheKind := .memory
  memory : MemoryCache := {}
  deriving Repr, Inhabited

/-- What may fail and change a cache. -/
abbrev CacheEffect := ExceptT Failure (StateM Cache)

namespace Cache

/-- Fails where the cache fails at every call. -/
def available : CacheEffect MemoryCache := do
  let cache ← get
  match cache.kind with
  | .failing => throw (.reported (.cache "down"))
  | .memory | .twoStep => return cache.memory

/-- Replaces the entries. -/
def setMemory (memory : MemoryCache) : CacheEffect Unit :=
  modify fun cache => { cache with memory := memory }

/-- Reads a key. -/
def read (key : String) : CacheEffect (Option Json) := do
  return (← available).get? key

/-- Stores a value for a number of seconds, which may not be zero. -/
def put (key : String) (value : Json) (seconds : Nat) : CacheEffect Unit := do
  let memory ← available
  if seconds = 0 then throw (.reported (.cache ("zero ttl for key " ++ key)))
  else setMemory (memory.put key value)

/-- Stores a value until it is taken out. -/
def forever (key : String) (value : Json) : CacheEffect Unit := do
  setMemory ((← available).forever key value)

/-- Removes a key and says whether it was present. -/
def forget (key : String) : CacheEffect Bool := do
  let memory ← available
  setMemory (memory.forget key)
  return (memory.get? key).isSome

/-- Reads and removes a key, in one step or in two. -/
def pull (key : String) : CacheEffect (Option Json) := do
  let memory ← available
  match (← get).kind with
  | .twoStep =>
    let value ← read key
    if value.isSome then
      let _ ← forget key
    return value
  | _ =>
    let (value, rest) := memory.pull key
    setMemory rest
    return value

end Cache

end EntityGate
