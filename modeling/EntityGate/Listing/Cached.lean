import EntityGate.Listing.Basic
import EntityGate.Text.Digest

/-!
# Cached listings

The listings of a gate with a cache policy are kept under a key that depends on the entity, the
version and everything in the request that a listing depends on. The key is listed in the group of
the gate, so that a change of the entity removes it. A gate with a base query is never served from
the cache, because the base query may read anything in the request.
-/

namespace EntityGate

namespace GateVersion

/-- What the listing of a request depends on. -/
def listingShape (gate : GateVersion) (request : Request) : Json :=
  .object [
    ("entity", .string gate.entity),
    ("version", Json.ofString? gate.version),
    ("request", request.fingerprint)]

/-- The key of the listing of a request. -/
def listingKey (gate : GateVersion) (keyStart : String) (request : Request) : String :=
  keyStart ++ ":listing:" ++ Digest.sha256Hex (gate.listingShape request).compact

/-- The policy and the group under which listings are kept, if they are. -/
def listingCache? (gate : GateVersion) : Option (CachePolicy × String) :=
  match gate.baseQuery, gate.cache with
  | none, some policy => some (policy, policy.group gate.entity)
  | _, _ => none

/-- Keeps a listing under its key and lists the key in its group. -/
def keepListing (groups : CacheGroups) (policy : CachePolicy) (group key : String)
    (listing : Json) : CacheEffect Unit := do
  Cache.put key listing policy.ttl
  groups.register group key (some policy.ttl)

/-- The listing of a request as JSON, from the cache if it is there. -/
def cachedList [Libraries] (gate : GateVersion) (validate : InputValidator)
    (groups : CacheGroups) (defaults : PaginationDefaults) (request : Request) : Effect Json :=
  match gate.listingCache? with
  | none => return (← gate.list validate defaults request).toJson
  | some (policy, group) => do
    let key := gate.listingKey groups.keyStart request
    match ← Session.onCache (Cache.read key) with
    | some kept => return kept
    | none =>
      let listing := (← gate.list validate defaults request).toJson
      Session.onCache (keepListing groups policy group key listing)
      return listing

end GateVersion

end EntityGate
