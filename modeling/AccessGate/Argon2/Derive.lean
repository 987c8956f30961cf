import AccessGate.Argon2.Memory
import AccessGate.Digest.Blake2b

/-!
# Deriving a key with Argon2id

The derivation hashes its inputs, expands the hash into the first two blocks of every lane, fills
the memory, and hashes the last blocks into a key of the wanted length.
-/

namespace AccessGate.Argon2

/-- The costs of a derivation: memory in kibibytes, number of passes, and number of lanes. -/
structure Costs where
  memory : Nat
  passes : Nat
  lanes : Nat
  deriving DecidableEq, Repr

/-- A number as four bytes. -/
def word (value : Nat) : Bytes :=
  Bytes.littleEndian 4 value

/-- A byte string after its length. -/
def measured (bytes : Bytes) : Bytes :=
  word bytes.length ++ bytes

/-- The hash of all inputs.  Version 19 of the variant numbered 2 is used, without a pepper or
associated data. -/
def inputHash (secret salt : Bytes) (costs : Costs) (length : Nat) : Bytes :=
  Digest.Blake2b.digest 64
    (word costs.lanes ++ word length ++ word costs.memory ++ word costs.passes ++ word 19 ++
      word 2 ++ measured secret ++ measured salt ++ measured [] ++ measured [])

/-- A digest of any length: short ones directly, long ones from the first halves of a chain of
digests. -/
def longDigest (length : Nat) (input : Bytes) : Bytes :=
  if length ≤ 64 then Digest.Blake2b.digest length (word length ++ input)
  else
    let links := (length + 31) / 32 - 2
    chain links (length - 32 * links) (Digest.Blake2b.digest 64 (word length ++ input))
where
  /-- The first halves of the links that are left, and a last digest. -/
  chain : (links : Nat) → (last : Nat) → (link : Bytes) → Bytes
    | 0, _, _ => []
    | 1, last, link => link.take 32 ++ Digest.Blake2b.digest last link
    | links + 2, last, link =>
        link.take 32 ++ chain (links + 1) last (Digest.Blake2b.digest 64 link)

/-- The memory with the first two blocks of every lane. -/
def start (shape : Shape) (hash : Bytes) : Array Block :=
  let first (lane column : Nat) : Block :=
    Block.ofBytes (longDigest 1024 (hash ++ word column ++ word lane))
  (List.range shape.lanes).foldl
    (fun memory lane =>
      let base := lane * shape.laneLength
      (memory.setIfInBounds base (first lane 0)).setIfInBounds (base + 1) (first lane 1))
    (Array.replicate shape.blocks .zero)

/-- Derives a key of the given length. -/
def derive (secret salt : Bytes) (costs : Costs) (length : Nat) : Bytes :=
  let shape : Shape :=
    { lanes := costs.lanes, segment := costs.memory / (4 * costs.lanes), passes := costs.passes }
  let memory := fill shape (start shape (inputHash secret salt costs length))
  longDigest length (lastBlocks shape memory).bytes

end AccessGate.Argon2
