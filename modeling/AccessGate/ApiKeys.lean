import AccessGate.Bytes.Base64
import AccessGate.Engine
import AccessGate.Secret.Hasher

/-!
# API keys

A presented key is an admin key, the key of a tenant, or invalid.  Admin keys are looked up first
and without asking the directory.  Tenants' keys are only stored as salted hashes, so a key is tried
against the tenants one after the other.
-/

namespace AccessGate

/-- What a presented key grants. -/
inductive KeyAccess where
  | invalid
  | tenant (id : String)
  | admin
  deriving DecidableEq, Repr

namespace KeyAccess

/-- The name of the level of access. -/
def level : KeyAccess → String
  | invalid => "None"
  | tenant _ => "Tenant"
  | admin => "Admin"

/-- The tenant that access is limited to. -/
def tenantId? : KeyAccess → Option String
  | tenant id => some id
  | _ => none

/-- Whether a key grants anything. -/
def isValid (access : KeyAccess) : Bool :=
  access ≠ invalid

end KeyAccess

/-- The admin keys, and the hasher of the tenants' keys. -/
structure ApiKeys where
  adminKeys : TextSet
  hasher : Hasher := {}

namespace ApiKeys

open AccessGate.Action

/-- A new key from random bytes. -/
def keyOf (random : Bytes) : String :=
  "ask_" ++ Base64.write Base64.addressSafe random

/-- Makes a new key from random bytes and its stored hash with a salt. -/
def generate (keys : ApiKeys) (random salt : Bytes) : Except Fault (String × String) :=
  (keys.hasher.hash (keyOf random) salt).map fun hash => (keyOf random, hash)

/-- The first tenant whose stored hash fits a key.  A missing or empty hash fits none. -/
def owner? (hasher : Hasher) (key : String) : List Tenant → Except Fault (Option Tenant)
  | [] => .ok none
  | tenant :: tenants =>
      match tenant.keyHash.filter fun hash => !hash.isEmpty with
      | none => owner? hasher key tenants
      | some hash => do
          if ← hasher.verify key hash then return some tenant
          else owner? hasher key tenants

def classify (keys : ApiKeys) (key : String) : Action KeyAccess := do
  if Text.isBlankText key then return .invalid
  else if key ∈ keys.adminKeys then
    note .apiKeyValidated .debug [("access_level", .text KeyAccess.admin.level)]
    return .admin
  else
    let tenants ← ask .tenantsWithKeys (·.tenantsWithKeys)
    match ← (owner? keys.hasher key tenants : Except Fault _) with
    | some tenant =>
        let access := KeyAccess.tenant tenant.id
        note .apiKeyValidated .debug
          [("access_level", .text access.level), ("tenant_id", .text tenant.id),
            ("tenant_key", .text tenant.key)]
        return access
    | none =>
        note .apiKeyInvalid .warning []
        return .invalid

end ApiKeys

end AccessGate
