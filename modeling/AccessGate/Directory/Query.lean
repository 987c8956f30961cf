import AccessGate.Directory.Basic
import AccessGate.Fault

/-!
# Asking the directory

The directory is kept in a store that other programs write to and that may be out of reach.  Every
question is recorded before it is answered, also when it then fails.
-/

namespace AccessGate

/-- A question to the directory, in terms of keys, codes and ids of some type. -/
inductive Question (ι : Type) where
  | tenantByKey (key : ι)
  | tenantsWithKeys
  | permissionByCode (tenantId code : ι)
  | holdsThroughRole (user permissionId : ι)
  | holdsDirectly (user permissionId : ι)
  | rolesOfUser (user tenantId : ι)
  | codesOfRoles (roleIds : List ι)
  | directCodes (user tenantId : ι)
  deriving DecidableEq, Repr

/-- A question of the service, which asks in texts. -/
abbrev Query := Question String

/-- The store of the directory. -/
structure Store where
  directory : Directory
  /-- How a question fails, if it does. -/
  outage : Query → Option Fault := fun _ => none
  /-- The questions asked so far. -/
  asked : List Query := []
  deriving Inhabited

/-- Asks a question whose answer is computed from the directory. -/
def Store.ask {α : Type} (store : Store) (query : Query) (answer : Directory → α) :
    Except Fault α × Store :=
  let asked := { store with asked := store.asked ++ [query] }
  match store.outage query with
  | some fault => (.error fault, asked)
  | none => (.ok (answer store.directory), asked)

end AccessGate
