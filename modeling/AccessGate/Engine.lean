import AccessGate.Cache.Permissions
import AccessGate.Directory.Query
import AccessGate.Journal

/-!
# The engine

The engine is what the services work on: the directory, the permission cache with its clock, and
the journal.  An action may fail; what it did before it failed stays done.
-/

namespace AccessGate

/-- The state that the services share. -/
structure Engine where
  store : Store
  cache : PermissionCache
  /-- The clock of the cache, in ticks. -/
  now : Int := 0
  journal : Journal := {}
  deriving Inhabited

/-- The engine after an edit of its directory. -/
def Engine.edit (engine : Engine) (change : Directory → Directory) : Engine :=
  { engine with store := { engine.store with directory := change engine.store.directory } }

abbrev Action (α : Type) := ExceptT Fault (StateM Engine) α

namespace Action

def ask {α : Type} (query : Query) (answer : Directory → α) : Action α := fun engine =>
  let (outcome, store) := engine.store.ask query answer
  (outcome, { engine with store })

/-- Notes an audit record. -/
def note (event : AuditEvent) (level : LogLevel) (fields : List (String × Json)) : Action Unit :=
  fun engine => (.ok (), { engine with journal := engine.journal.note event level fields })

def count (count : Count) : Action Unit := fun engine =>
  (.ok (), { engine with journal := engine.journal.count count })

def cachedCodes (user tenant : String) : Action (Option TextSet) := fun engine =>
  let (found, cache) := engine.cache.get engine.now user tenant
  (found.mapError fun _ => .nestedTooDeep, { engine with cache })

def cacheCodes (user tenant : String) (codes : TextSet) : Action Unit := fun engine =>
  (.ok (), { engine with cache := engine.cache.set engine.now user tenant codes.items })

def dropCodes (drop : PermissionCache → Except Disconnected Unit × PermissionCache) :
    Action Unit := fun engine =>
  let (outcome, cache) := drop engine.cache
  (outcome.mapError fun _ => .disconnected, { engine with cache })

end Action

end AccessGate
