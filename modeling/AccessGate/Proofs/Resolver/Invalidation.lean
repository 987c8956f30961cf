import AccessGate.Proofs.Cache.Shared
import AccessGate.Proofs.Resolver.Run

/-!
# Invalidations of the shared cache

An invalidation of the shared cache either fails with everything as it was, because the store failed
one of its commands, or it leaves no codes of any pair that it covers, and one audit record.  Names
with stars do not get in the way: an invalidation may then take more entries than it covers, but
never fewer, since every name fits itself.
-/

namespace AccessGate

/-- A lookup of a pair without a stored text finds nothing, whether the store answers or not. -/
theorem SharedCache.get_of_absent {cache : SharedCache} {user tenant : String}
    (absent : cache.store.entries.get? (cacheKey user tenant) = none) :
    (cache.get user tenant).1 = .ok none := by
  rcases cache.store.carryOut_cases (.get (cacheKey user tenant)) fun entries =>
      (entries.get? (cacheKey user tenant), entries) with ⟨_, outcome⟩ | ⟨_, outcome⟩
  · unfold get KeyValueStore.get
    rw [outcome]
  · unfold get KeyValueStore.get
    rw [outcome, absent]

/-- A key-value store with other texts, after some more commands. -/
def SharedCache.turned (cache : SharedCache) (issued : List Command)
    (entries : Table String String) : SharedCache :=
  { cache with store := { cache.store.issue issued with entries } }

/-- The engine with another cache and more audit records. -/
def Engine.turned (engine : Engine) (cache : SharedCache) (records : List AuditRecord) : Engine :=
  { engine with
    cache := .shared cache
    journal := { engine.journal with records := engine.journal.records ++ records } }

namespace Invalidation

def record : Invalidation → AuditRecord
  | ofUser user tenant =>
      { event := .permissionCacheInvalidated, level := .info
        fields := [("user_id", .text user), ("tenant_id", .optionalText tenant)] }
  | ofTenant tenant =>
      { event := .permissionCacheInvalidated, level := .info
        fields := [("tenant_id", .text tenant)] }

private theorem perform_shared {engine : Engine} {cache after : SharedCache}
    {outcome : Except Disconnected Unit} (kept : engine.cache = .shared cache)
    (request : Invalidation) (invalidated : cache.invalidate request = (outcome, after)) :
    (request.perform engine : Except Fault Unit × Engine) =
      match outcome with
      | .error _ => (.error .disconnected, engine.turned after [])
      | .ok () => (.ok (), engine.turned after [request.record]) := by
  have unrecorded : engine.turned after [] = { engine with cache := .shared after } := by
    simp [Engine.turned]
  cases request with
  | ofUser user tenant =>
      have dropped : cache.invalidateUser user tenant = (outcome, after) := invalidated
      rw [perform, Resolver.invalidateUser, Action.bind_apply, Action.dropCodes]
      simp only [kept, PermissionCache.invalidateUser, dropped, Prod.map, id]
      cases outcome with
      | error failure =>
          rw [unrecorded]
          rfl
      | ok value => rfl
  | ofTenant tenant =>
      have dropped : cache.invalidateTenant tenant = (outcome, after) := invalidated
      rw [perform, Resolver.invalidateTenant, Action.bind_apply, Action.dropCodes]
      simp only [kept, PermissionCache.invalidateTenant, dropped, Prod.map, id]
      cases outcome with
      | error failure =>
          rw [unrecorded]
          rfl
      | ok value => rfl

/-- An invalidation fails if and only if the store refuses one of its commands.  It then leaves the
stored texts and the audit records as they were; otherwise it leaves one record more, and no codes
of any pair that it covers. -/
theorem completes_or_fails (engine : Engine) (cache : SharedCache)
    (kept : engine.cache = .shared cache) (request : Invalidation) :
    ∃ issued entries,
      (cache.store.Refuses issued →
        (request.perform engine : Except Fault Unit × Engine) =
            (.error .disconnected, engine.turned (cache.turned issued entries) []) ∧
          entries = cache.store.entries) ∧
      (¬ cache.store.Refuses issued →
        (request.perform engine : Except Fault Unit × Engine) =
            (.ok (), engine.turned (cache.turned issued entries) [request.record]) ∧
          ∀ user tenant, request.covers (user, tenant) = true →
            entries.get? (cacheKey user tenant) = none ∧
              ((cache.turned issued entries).get user tenant).1 = .ok none) := by
  obtain ⟨outcome, store, invalidated, deletes⟩ := cache.deletes_invalidate request
  have performed := perform_shared kept request invalidated
  cases deletes with
  | refused issued refuses =>
      refine ⟨issued, cache.store.entries, ?_, ?_⟩
      · intro _
        exact ⟨performed, rfl⟩
      · intro unrefused
        exact absurd refuses unrefused
  | done issued entries unrefused gone _ =>
      refine ⟨issued, entries, ?_, ?_⟩
      · intro refuses
        exact absurd refuses unrefused
      · intro _
        refine ⟨performed, ?_⟩
        intro user tenant covered
        have absent : entries.get? (cacheKey user tenant) = none :=
          gone _ ⟨(user, tenant), names_of_covers covered, rfl⟩
        exact ⟨absent, SharedCache.get_of_absent absent⟩

/-- The entry of a user whose name holds a star is gone once the user is invalidated. -/
theorem completes_despite_star :
    ∃ engine cache issued entries, engine.cache = .shared cache ∧
      (cache.get "a*" "t1").1 = .ok (some (.ofList ["shop.catalog.read"])) ∧
      ((Invalidation.ofUser "a*" none).perform engine : Except Fault Unit × Engine) =
        (.ok (), engine.turned (cache.turned issued entries)
          [(Invalidation.ofUser "a*" none).record]) ∧
      ((cache.turned issued entries).get "a*" "t1").1 = .ok none := by
  have empty : SharedCache.Trace 900 [] _ := .start
  have trace := empty.step (.set "a*" "t1" ["shop.catalog.read"])
  obtain ⟨issued, entries, _, completes⟩ := completes_or_fails
    { (default : Engine) with cache := .shared _ } _ rfl (.ofUser "a*" none)
  obtain ⟨performed, missing⟩ := completes (trace.reliable.not_refuses issued)
  refine ⟨_, _, issued, entries, rfl, ?_, performed, (missing "a*" "t1" (by decide)).2⟩
  rw [SharedCache.get_after_of_reaches empty.reliable, CacheUse.leaves, SharedCache.remembered,
    SharedCache.decode_encode]
  exact .refl _

end Invalidation

end AccessGate
