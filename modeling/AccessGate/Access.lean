import AccessGate.ApiKeys

/-!
# Access

A principal is who a request comes from: the holder of an admin key, of a tenant's key, or a user
with a token.  The gates refuse a request whose principal lacks the access that is asked for; users
have no access of their own, whatever roles and permissions their token carries.
-/

namespace AccessGate

inductive AccessLevel where
  | none
  | tenant
  | admin
  deriving DecidableEq, Repr, Inhabited

namespace AccessLevel

def name : AccessLevel → String
  | none => "None"
  | tenant => "Tenant"
  | admin => "Admin"

def ofName? (name : String) : Option AccessLevel :=
  [none, tenant, admin].find? fun level => level.name = name

end AccessLevel

/-- The level of what a key grants. -/
def KeyAccess.accessLevel : KeyAccess → AccessLevel
  | invalid => .none
  | tenant _ => .tenant
  | admin => .admin

/-- Who a request comes from. -/
structure Principal where
  level : AccessLevel
  /-- The tenant that access is limited to. -/
  tenantId : Option String := none
  /-- The user of a token. -/
  userId : Option String := none
  /-- What a token tells as the key of its tenant. -/
  tenantKey : Json := .null
  roles : List Json := []
  permissions : List Json := []
  deriving Inhabited

namespace Principal

/-- The principal of what a key grants. -/
def ofKey (access : KeyAccess) : Principal :=
  { level := access.accessLevel, tenantId := access.tenantId? }

def isAdmin (principal : Principal) : Bool :=
  principal.level = .admin

/-- Whether a principal may act on a tenant, or on any tenant at all where none is named. -/
def mayAccess (principal : Principal) (tenantId : Option String) : Bool :=
  principal.isAdmin ||
    (principal.level = .tenant && (tenantId.isNone || principal.tenantId = tenantId))

end Principal

namespace Gate

/-- The principal that a request was given. -/
def authenticated : Option Principal → Except Fault Principal
  | some principal => .ok principal
  | none => .error (.refused 401 "Not authenticated")

/-- Asks for an administrator. -/
def admin (principal : Principal) : Except Fault Principal :=
  if principal.isAdmin then .ok principal else .error (.refused 403 "Admin access required")

/-- Asks for access to any tenant. -/
def anyTenant (principal : Principal) : Except Fault Principal :=
  if principal.mayAccess none then .ok principal
  else .error (.refused 403 "Application access required")

/-- Asks for access to a tenant. -/
def tenant (principal : Principal) (tenantId : Option String) : Except Fault Unit :=
  if principal.mayAccess tenantId then .ok ()
  else .error (.refused 403 "Access to this application is not allowed")

end Gate

end AccessGate
