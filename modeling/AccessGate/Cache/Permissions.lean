import AccessGate.Cache.Memory
import AccessGate.Cache.Shared

/-!
# Permission caches

A permission cache is kept in memory or in the shared store.
-/

namespace AccessGate

inductive PermissionCache where
  | memory (cache : MemoryCache)
  | shared (cache : SharedCache)
  deriving Inhabited

namespace PermissionCache

def get (cache : PermissionCache) (now : Int) (user tenant : String) :
    Except NestedTooDeep (Option TextSet) × PermissionCache :=
  match cache with
  | memory cache => (cache.get now user tenant).map Except.ok memory
  | shared cache => (cache.get user tenant).map id shared

def set (cache : PermissionCache) (now : Int) (user tenant : String) (codes : List String) :
    PermissionCache :=
  match cache with
  | memory cache => memory (cache.set now user tenant codes)
  | shared cache => shared (cache.set user tenant codes)

/-- Drops the entries of a user, within one tenant or within all. -/
def invalidateUser (cache : PermissionCache) (user : String) (tenant : Option String) :
    Except Disconnected Unit × PermissionCache :=
  match cache with
  | memory cache => (.ok (), memory (cache.invalidateUser user tenant))
  | shared cache => (cache.invalidateUser user tenant).map id shared

/-- Drops the entries of a tenant, of all users. -/
def invalidateTenant (cache : PermissionCache) (tenant : String) :
    Except Disconnected Unit × PermissionCache :=
  match cache with
  | memory cache => (.ok (), memory (cache.invalidateTenant tenant))
  | shared cache => (cache.invalidateTenant tenant).map id shared

end PermissionCache

end AccessGate
