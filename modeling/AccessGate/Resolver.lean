import AccessGate.Engine

/-!
# Resolving permissions

The resolver answers whether a user holds a permission within a tenant: from the cached codes where
there are any, and otherwise from the directory.  Only a full resolution is cached, the union of
the codes from roles and of the codes held directly; a check that is denied caches nothing.
-/

namespace AccessGate

/-- The answer to a permission check. -/
structure CheckResult where
  granted : Bool
  evidence : Evidence
  deriving DecidableEq, Repr

/-- A module and an action to check. -/
structure CheckItem where
  module : String
  action : String
  deriving DecidableEq, Repr

namespace Resolver

open AccessGate.Action

/-- The active tenant with a key. -/
def tenant (key : String) : Action Tenant := do
  match ← ask (.tenantByKey key) (·.tenantByKey key) with
  | some tenant => return tenant
  | none => throw (.service (.notFound s!"Application '{key}' not found."))

/-- Every code that a user holds within a tenant. -/
def codes (user tenantId : String) : Action TextSet := do
  match ← cachedCodes user tenantId with
  | some codes => return codes
  | none =>
      let roles ← ask (.rolesOfUser user tenantId) (·.rolesOfUser user tenantId)
      let fromRoles ← ask (.codesOfRoles roles) (·.codesOfRoles roles)
      let direct ← ask (.directCodes user tenantId) (·.directCodes user tenantId)
      let codes := fromRoles.union direct
      cacheCodes user tenantId codes
      return codes

/-- Checks a code against the directory, and caches all codes of the user if it is granted. -/
def checkDirectory (user : String) (tenant : Tenant) (code : String) : Action CheckResult := do
  match ← ask (.permissionByCode tenant.id code) (·.permissionByCode tenant.id code) with
  | none => return ⟨false, .none⟩
  | some permission =>
      if ← ask (.holdsThroughRole user permission.id) (·.holdsThroughRole user permission.id) then
        let _ ← codes user tenant.id
        return ⟨true, .role⟩
      else if ← ask (.holdsDirectly user permission.id) (·.holdsDirectly user permission.id) then
        let _ ← codes user tenant.id
        return ⟨true, .direct⟩
      else return ⟨false, .none⟩

def report (user : String) (tenant : Tenant) (code : String) (result : CheckResult) :
    Action Unit := do
  count (.permissionCheck result.evidence result.granted)
  note .permissionChecked .debug
    [("tenant_key", .text tenant.key), ("user_id", .text user), ("permission_code", .text code),
      ("source", .text result.evidence.name)]

/-- Checks whether a user holds a permission. -/
def check (user tenantKey module action : String) : Action CheckResult := do
  let tenant ← tenant tenantKey
  let code := permissionCode tenantKey module action
  let result ← match ← cachedCodes user tenant.id with
    | some codes => pure ⟨decide (code ∈ codes), .cache⟩
    | none => checkDirectory user tenant code
  report user tenant code result
  return result

/-- Checks several permissions of a user with one resolution. -/
def checkAll (user tenantKey : String) (items : List CheckItem) :
    Action (List (CheckItem × Bool)) := do
  let tenant ← tenant tenantKey
  let codes ← codes user tenant.id
  return items.map fun item =>
    (item, decide (permissionCode tenantKey item.module item.action ∈ codes))

/-- The start of all codes of a module. -/
def moduleStart (tenantKey module : String) : String :=
  Text.lower (tenantKey ++ "." ++ module ++ ".")

/-- Whether a code belongs to a module, without regard to letter case. -/
def belongsTo (tenantKey module code : String) : Bool :=
  (moduleStart tenantKey module).toList.isPrefixOf (Text.lowerCharacters code.toList)

/-- Lists the codes of a user, of one module unless its name is missing or empty. -/
def list (user tenantKey : String) (module : Option String) : Action (List String) := do
  let tenant ← tenant tenantKey
  let codes ← codes user tenant.id
  match module.filter fun module => !module.isEmpty with
  | some module => return (codes.filter (belongsTo tenantKey module)).items
  | none => return codes.items

/-- Drops the cached codes of a user, within one tenant or within all. -/
def invalidateUser (user : String) (tenantId : Option String) : Action Unit := do
  dropCodes (·.invalidateUser user tenantId)
  note .permissionCacheInvalidated .info
    [("user_id", .text user), ("tenant_id", .optionalText tenantId)]

/-- Drops the cached codes of a tenant. -/
def invalidateTenant (tenantId : String) : Action Unit := do
  dropCodes (·.invalidateTenant tenantId)
  note .permissionCacheInvalidated .info [("tenant_id", .text tenantId)]

end Resolver

end AccessGate
