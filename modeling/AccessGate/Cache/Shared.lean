import AccessGate.Cache.KeyValue
import AccessGate.Json.Display
import AccessGate.Json.Reader
import AccessGate.Text.Sorted

/-!
# The permission cache in the shared store

The codes of a user within a tenant are stored under one key as a JSON list.  An unreachable store
or a text that is not a list counts as a miss, and a failed write is forgotten; reading only fails
where the stored text nests too deep.  Invalidations pass on the failure of the store, and find the
keys of a user or of a tenant by a pattern.
-/

namespace AccessGate

def cacheKey (user tenant : String) : String :=
  "permissions:user:" ++ user ++ ":app:" ++ tenant

/-- A permission cache in the shared store. -/
structure SharedCache where
  store : KeyValueStore
  /-- The lifetime of an entry, in seconds. -/
  lifetime : Int
  deriving Inhabited

/-- A stored text nests too deep to be read. -/
structure NestedTooDeep where
  deriving DecidableEq, Repr

namespace SharedCache

/-- The codes that a stored text lists, if it is a list.  Items that are not texts count as they are
shown. -/
def decode (text : String) : Except NestedTooDeep (Option TextSet) :=
  match Json.readUnmarked text with
  | .ok (.list items) => .ok (some (.ofList (items.map Json.display)))
  | .error .tooDeep => .error {}
  | _ => .ok none

/-- The stored text of codes: in order, with repetitions. -/
def encode (codes : List String) : String :=
  Json.write .spaced (.texts (Text.sorted codes))

def get (cache : SharedCache) (user tenant : String) :
    Except NestedTooDeep (Option TextSet) × SharedCache :=
  let (found, store) := cache.store.get (cacheKey user tenant)
  let codes := match found with
    | .ok (some text) => decode text
    | _ => .ok none
  (codes, { cache with store })

def set (cache : SharedCache) (user tenant : String) (codes : List String) : SharedCache :=
  let lifetime := Quantity.whole cache.lifetime
  { cache with store := (cache.store.set (cacheKey user tenant) (encode codes) lifetime).2 }

def deleteFitting (store : KeyValueStore) (pattern : String) :
    Except Disconnected Unit × KeyValueStore :=
  match store.scan pattern with
  | (.error failure, store) => (.error failure, store)
  | (.ok keys, store) => if keys.isEmpty then (.ok (), store) else store.delete keys

/-- Deletes the entries of a user, within one tenant or within all. -/
def invalidateUser (cache : SharedCache) (user : String) (tenant : Option String) :
    Except Disconnected Unit × SharedCache :=
  let (outcome, store) := match tenant with
    | some tenant => cache.store.delete [cacheKey user tenant]
    | none => deleteFitting cache.store ("permissions:user:" ++ user ++ ":app:*")
  (outcome, { cache with store })

/-- Deletes the entries of a tenant, of all users. -/
def invalidateTenant (cache : SharedCache) (tenant : String) :
    Except Disconnected Unit × SharedCache :=
  let (outcome, store) := deleteFitting cache.store ("permissions:user:*:app:" ++ tenant)
  (outcome, { cache with store })

/-- Ends the connection to the store. -/
def close (cache : SharedCache) : Except Disconnected Unit × SharedCache :=
  let (outcome, store) := cache.store.close
  (outcome, { cache with store })

end SharedCache

end AccessGate
