import AccessGate.Collection.Table
import AccessGate.Collection.TextSet
import AccessGate.Text.Lowercase

/-!
# The directory

The directory holds the tenants, the permissions they define, the roles that bundle permissions,
and the roles and permissions that users hold.  Its queries follow the joins of the relational
store: a user's roles are looked up by tenant where codes are collected, and by permission alone
where a single grant is looked up.
-/

namespace AccessGate

/-- An application that is registered with the service. -/
structure Tenant where
  id : String
  key : String
  name : String := ""
  isActive : Bool := true
  keyHash : Option String := none
  deriving DecidableEq, Repr

/-- The code of a permission: tenant key, module and action, lower-cased as one text. -/
def permissionCode (tenantKey module action : String) : String :=
  Text.lower (tenantKey ++ "." ++ module ++ "." ++ action)

/-- A permission that a tenant defines. -/
structure Permission where
  id : String
  tenantId : String
  module : String
  action : String
  code : String
  description : Option String := none
  deriving DecidableEq, Repr

/-- A named bundle of permissions of a tenant. -/
structure Role where
  id : String
  tenantId : String
  permissions : List String
  deriving DecidableEq, Repr

/-- Tenants, permissions, roles and grants. -/
structure Directory where
  tenants : List Tenant := []
  permissions : List Permission := []
  roles : List Role := []
  userRoles : Table String (List String) := .empty
  userPermissions : Table String (List String) := .empty
  deriving Inhabited

namespace Directory

/-! ## Queries -/

/-- The first active tenant with a key, compared without regard to letter case. -/
def tenantByKey (directory : Directory) (key : String) : Option Tenant :=
  directory.tenants.find? fun tenant =>
    tenant.isActive && Text.lower tenant.key = Text.lower key

/-- The active tenants that have a stored key hash. -/
def tenantsWithKeys (directory : Directory) : List Tenant :=
  directory.tenants.filter fun tenant => tenant.isActive && tenant.keyHash.isSome

/-- The first permission of a tenant with a code. -/
def permissionByCode (directory : Directory) (tenantId code : String) : Option Permission :=
  directory.permissions.find? fun permission =>
    permission.tenantId = tenantId && permission.code = code

/-- The ids of the roles that a user holds, of all tenants. -/
def rolesHeld (directory : Directory) (user : String) : List String :=
  (directory.userRoles.get? user).getD []

/-- The ids of the permissions that a user holds directly. -/
def permissionsHeld (directory : Directory) (user : String) : List String :=
  (directory.userPermissions.get? user).getD []

def rolesById (directory : Directory) (id : String) : List Role :=
  directory.roles.filter fun role => role.id = id

def permissionsById (directory : Directory) (id : String) : List Permission :=
  directory.permissions.filter fun permission => permission.id = id

def holdsThroughRole (directory : Directory) (user permissionId : String) : Bool :=
  (directory.rolesHeld user).any fun roleId =>
    (directory.rolesById roleId).any fun role => role.permissions.contains permissionId

def holdsDirectly (directory : Directory) (user permissionId : String) : Bool :=
  (directory.permissionsHeld user).contains permissionId

/-- The ids of the roles that a user holds within a tenant. -/
def rolesOfUser (directory : Directory) (user tenantId : String) : List String :=
  (directory.rolesHeld user).filter fun roleId =>
    (directory.rolesById roleId).any fun role => role.tenantId = tenantId

def codesOfRoles (directory : Directory) (roleIds : List String) : TextSet :=
  .ofList <| roleIds.flatMap fun roleId =>
    (directory.rolesById roleId).flatMap fun role =>
      role.permissions.flatMap fun permissionId =>
        (directory.permissionsById permissionId).map Permission.code

/-- The codes of the permissions of a tenant that a user holds directly. -/
def directCodes (directory : Directory) (user tenantId : String) : TextSet :=
  .ofList <| (directory.permissionsHeld user).flatMap fun permissionId =>
    ((directory.permissionsById permissionId).filter fun permission =>
      permission.tenantId = tenantId).map Permission.code

/-- Every code that a user holds within a tenant, through roles or directly. -/
def codesOf (directory : Directory) (user tenantId : String) : TextSet :=
  (directory.codesOfRoles (directory.rolesOfUser user tenantId)).union
    (directory.directCodes user tenantId)

/-! ## Changes -/

def assignRole (directory : Directory) (user role : String) : Directory :=
  { directory with userRoles := directory.userRoles.put user (directory.rolesHeld user ++ [role]) }

/-- Takes a role from a user, once. -/
def unassignRole (directory : Directory) (user role : String) : Directory :=
  { directory with
    userRoles := directory.userRoles.put user ((directory.rolesHeld user).erase role) }

def grant (directory : Directory) (user permission : String) : Directory :=
  { directory with
    userPermissions :=
      directory.userPermissions.put user (directory.permissionsHeld user ++ [permission]) }

/-- Revokes a directly granted permission of a user, once. -/
def revoke (directory : Directory) (user permission : String) : Directory :=
  { directory with
    userPermissions :=
      directory.userPermissions.put user ((directory.permissionsHeld user).erase permission) }

/-- Adds a tenant behind all others. -/
def addTenant (directory : Directory) (tenant : Tenant) : Directory :=
  { directory with tenants := directory.tenants ++ [tenant] }

def removeTenant (directory : Directory) (id : String) : Directory :=
  { directory with tenants := directory.tenants.filter fun tenant => tenant.id ≠ id }

end Directory

end AccessGate
