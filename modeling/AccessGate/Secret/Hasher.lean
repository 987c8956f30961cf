import AccessGate.Fault
import AccessGate.Secret.StoredHash
import AccessGate.Text.Blank

/-!
# Hashing secrets

A hasher turns secrets into stored hashes with its own costs, and verifies secrets against stored
hashes of any costs.  The derivation is a part of the hasher, so that what is said about hashing
does not depend on which function derives the digests.
-/

namespace AccessGate

/-- A function that derives a digest of a given length from a secret, a salt and costs. -/
abbrev Derivation :=
  (secret salt : Bytes) → (costs : Argon2.Costs) → (length : Nat) → Bytes

/-- A hasher of secrets.  Its costs are taken as they come and are checked when they are used. -/
structure Hasher where
  /-- The memory for a new hash, in kibibytes. -/
  memory : Int := 65536
  /-- The number of passes for a new hash. -/
  passes : Int := 3
  /-- The number of lanes for a new hash. -/
  lanes : Int := 4
  derivation : Derivation := Argon2.derive
  deriving Inhabited

namespace Hasher

/-- The number of bytes of a new digest. -/
def digestLength : Nat := 32

/-- The greatest number of lanes of a derivation. -/
def greatestLanes : Nat := Nat.pow 2 24 - 1

/-- Whether a number fits into a word of 32 bits. -/
def isWord (value : Int) : Bool :=
  0 ≤ value && value < (Nat.pow 2 32 : Nat)

/-- The costs of a derivation, if the derivation takes them. -/
def costs? (memory passes lanes : Int) : Except CostFault Argon2.Costs :=
  if !(isWord memory && isWord passes && isWord lanes) then .error .notAWord
  else if passes < 1 || lanes < 1 || greatestLanes < lanes || memory < 8 * lanes then
    .error .outOfBounds
  else .ok { memory := memory.toNat, passes := passes.toNat, lanes := lanes.toNat }

/-- The stored hash of a secret that is not blank. -/
def stored (hasher : Hasher) (secret : String) (salt : Bytes) : Except CostFault StoredHash := do
  let costs ← costs? hasher.memory hasher.passes hasher.lanes
  return { costs, salt, digest := hasher.derivation (Bytes.ofText secret) salt costs digestLength }

/-- Hashes a secret with a salt.  A blank secret is refused. -/
def hash (hasher : Hasher) (secret : String) (salt : Bytes) : Except Fault String :=
  if Text.isBlankText secret then .error (.service (.invalidInput "Secret cannot be empty."))
  else ((hasher.stored secret salt).map StoredHash.write).mapError Fault.costs

def read (encoded : String) : Except Fault (Option StoredHash) :=
  (StoredHash.read encoded).mapError fun _ => .unfinishedHash

def fits (hasher : Hasher) (secret : String) (stored : StoredHash) : Except CostFault Bool := do
  let costs ← costs? stored.costs.memory stored.costs.passes stored.costs.lanes
  let digest := hasher.derivation (Bytes.ofText secret) stored.salt costs stored.digest.length
  return digest = stored.digest

/-- Verifies a secret against a stored hash.  A blank secret and a malformed hash never match. -/
def verify (hasher : Hasher) (secret encoded : String) : Except Fault Bool :=
  if Text.isBlankText secret then .ok false
  else do
    match ← read encoded with
    | none => return false
    | some stored => (hasher.fits secret stored).mapError Fault.costs

/-- Whether a stored hash was made with other costs than the hasher's. -/
def needsRehash (hasher : Hasher) (encoded : String) : Except Fault Bool := do
  match ← read encoded with
  | none => return true
  | some stored =>
      return stored.costs.memory ≠ hasher.memory || stored.costs.passes ≠ hasher.passes ||
        stored.costs.lanes ≠ hasher.lanes || stored.digest.length ≠ digestLength

end Hasher

end AccessGate
