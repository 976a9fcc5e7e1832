import EntityGate.Cache.Basic
import EntityGate.Json.Record

/-!
# Groups of cached keys

A group lists the keys that have to go when something it stands for changes. The list is kept in
the cache itself, under a key of its own; a key is listed once, by its latest registration, and no
longer than it lives. A time to live counts in whole seconds, what a duration has beyond them is
not read, and a second of the clock is a signed integer of 64 bits.
-/

namespace EntityGate

/-- A key of a group and the second at which it expires, if it does. -/
structure Registration where
  key : String
  expiresAt : Option Int
  deriving DecidableEq, Repr, Inhabited

namespace Registration

/-- The JSON form of a registration. -/
def toJson (registration : Registration) : Json :=
  .object [("key", .string registration.key),
    ("expires_at", (registration.expiresAt.map Json.ofInt).getD .null)]

/-- The second that a value writes: nothing for null, and no value at all for what is neither null
nor a signed integer. -/
def expiryOfJson? : Json → Option (Option Int)
  | .null => some none
  | .number value => value.toSigned?.map some
  | _ => none

/-- The registration of its JSON form; only an object may leave the second out. -/
def ofJson? (json : Json) : Option Registration := do
  let parts ← Json.recordParts? ["key", "expires_at"] json
  match parts with
  | [some (.string key), some expiry] => (expiryOfJson? expiry).map fun second => ⟨key, second⟩
  | [some (.string key), none] => if json.fields?.isSome then some ⟨key, none⟩ else none
  | _ => none

/-- Whether the registration has not expired. -/
def isLive (now : Int) (registration : Registration) : Bool :=
  match registration.expiresAt with
  | some second => decide (now < second)
  | none => true

/-- The registrations that a JSON array lists. -/
def listOfJson? (json : Json) : Option (List Registration) :=
  match json with
  | .array items => items.mapM ofJson?
  | _ => none

end Registration

/-- The groups of a cache: how their keys start and what the time is, in seconds. -/
structure CacheGroups where
  keyStart : String
  now : Int
  deriving DecidableEq, Repr, Inhabited

namespace CacheGroups

/-- The key under which the list of a group is kept. -/
def indexKey (groups : CacheGroups) (group : String) : String :=
  groups.keyStart ++ ":group:" ++ group

/-- The registrations of a stored list. -/
def decode : Option Json → CacheEffect (List Registration)
  | none => return []
  | some json =>
    match Registration.listOfJson? json with
    | some registrations => return registrations
    | none => throw (.reported (.cache "corrupt group index"))

/-- The second at which a key with a time to live expires. The time to live is read as a signed
number; the sum has to stay within 64 bits. -/
def expiry (groups : CacheGroups) (seconds : Nat) : Except Failure Int :=
  Failure.signed64 (groups.now + Int.bmod seconds (2 ^ 64))

/-- The second at which a key expires, if it has a time to live. -/
def expiresAt (groups : CacheGroups) : Option Nat → Except Failure (Option Int)
  | none => .ok none
  | some seconds => (groups.expiry seconds).map some

/-- Lists a key last in its group, with the seconds it lives, and drops expired ones. -/
def register (groups : CacheGroups) (group key : String) (seconds : Option Nat) :
    CacheEffect Unit := do
  let index := groups.indexKey group
  let listed ← decode (← Cache.read index)
  let kept := listed.filter fun entry => entry.isLive groups.now && entry.key != key
  let expiresAt ← liftExcept (groups.expiresAt seconds)
  let entries := kept ++ [⟨key, expiresAt⟩]
  Cache.forever index (.array (entries.map Registration.toJson))

/-- Removes keys and counts those that were present. -/
def forgetAll : List Registration → CacheEffect Nat
  | [] => return 0
  | entry :: rest => do
    let present ← Cache.forget entry.key
    let others ← forgetAll rest
    return others + present.toNat

/-- Removes the list of a group and all keys on it; the answer is how many were present. -/
def flush (groups : CacheGroups) (group : String) : CacheEffect Nat := do
  let listed ← decode (← Cache.pull (groups.indexKey group))
  forgetAll listed

/-- The keys of a group that have not expired. -/
def keys (groups : CacheGroups) (group : String) : CacheEffect (List String) := do
  let listed ← decode (← Cache.read (groups.indexKey group))
  return (listed.filter (Registration.isLive groups.now)).map Registration.key

end CacheGroups

end EntityGate
