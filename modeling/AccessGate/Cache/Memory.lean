import AccessGate.Collection.Table
import AccessGate.Collection.TextSet

/-!
# The permission cache in memory

The cache keeps the permission codes of a user within a tenant until a time of expiry.  Two
indexes, by user and by tenant, list the pairs that have an entry, so that the entries of a user or
of a tenant can be dropped without searching.  An entry is found expired only when it is asked for.
The cache has a clock of its own, which counts in ticks; these may be of any length, as long as
lifetimes are given in the same ticks.
-/

namespace AccessGate

/-- An entry of the cache with its time of expiry, in ticks of the cache's clock. -/
structure CacheEntry where
  expiresAt : Int
  codes : TextSet
  deriving DecidableEq

/-- A permission cache in memory. -/
structure MemoryCache where
  /-- The lifetime of an entry, in ticks. -/
  lifetime : Int
  /-- The entries by user and tenant. -/
  entries : Table (String × String) CacheEntry := .empty
  /-- The tenants for which a user has entries. -/
  byUser : Table String TextSet := .empty
  /-- The users who have entries for a tenant. -/
  byTenant : Table String TextSet := .empty
  deriving Inhabited

namespace MemoryCache

/-- The members that an index lists for a key. -/
def members (index : Table String TextSet) (key : String) : TextSet :=
  (index.get? key).getD .empty

def enlist (index : Table String TextSet) (key member : String) : Table String TextSet :=
  index.put key ((members index key).insert member)

/-- Removes a member from a key of an index, and the key with its last member. -/
def strike (index : Table String TextSet) (key member : String) : Table String TextSet :=
  match index.get? key with
  | none => index
  | some found =>
      let left := found.erase member
      if left.isEmpty then index.erase key else index.put key left

/-- Drops the entry of a user within a tenant. -/
def drop (cache : MemoryCache) (user tenant : String) : MemoryCache :=
  { cache with
    entries := cache.entries.erase (user, tenant)
    byUser := strike cache.byUser user tenant
    byTenant := strike cache.byTenant tenant user }

/-- The codes of a user within a tenant, unless there is no entry or it has expired.  An expired
entry is dropped. -/
def get (cache : MemoryCache) (now : Int) (user tenant : String) : Option TextSet × MemoryCache :=
  match cache.entries.get? (user, tenant) with
  | none => (none, cache)
  | some entry =>
      if entry.expiresAt ≤ now then (none, cache.drop user tenant) else (some entry.codes, cache)

def set (cache : MemoryCache) (now : Int) (user tenant : String) (codes : List String) :
    MemoryCache :=
  { cache with
    entries := cache.entries.put (user, tenant)
      { expiresAt := now + cache.lifetime, codes := .ofList codes }
    byUser := enlist cache.byUser user tenant
    byTenant := enlist cache.byTenant tenant user }

/-- Drops the entries of a user, within one tenant or within all. -/
def invalidateUser (cache : MemoryCache) (user : String) : (tenant : Option String) → MemoryCache
  | some tenant => cache.drop user tenant
  | none =>
      (members cache.byUser user).items.foldl (fun cache tenant => cache.drop user tenant) cache

/-- Drops the entries of a tenant, of all users. -/
def invalidateTenant (cache : MemoryCache) (tenant : String) : MemoryCache :=
  (members cache.byTenant tenant).items.foldl (fun cache user => cache.drop user tenant) cache

/-- The number of entries, expired ones included. -/
def size (cache : MemoryCache) : Nat :=
  cache.entries.size

end MemoryCache

end AccessGate
