import AccessGate.Argon2.Derive
import AccessGate.Proofs.Bytes.Words

/-!
# The length of derived keys

A BLAKE2b digest has as many bytes as were asked for, up to the sixty-four that its eight chaining
words hold.  A longer digest is put together from the first halves of such digests, and so a key
that is derived with Argon2id has the wanted length, whatever it is derived from.
-/

namespace AccessGate

/-! ## BLAKE2b -/

namespace Digest.Blake2b

theorem length_compress (chain : List UInt64) (block : Bytes) (count : Nat) (last : Bool)
    (eight : chain.length = 8) : (compress chain block count last).length = 8 := by
  simp [compress, eight, Words16.toList]

private theorem length_absorb (chain : List UInt64) (count : Nat) (blocks : List Bytes)
    (eight : chain.length = 8) : (absorb chain count blocks).length = 8 := by
  fun_induction absorb chain count blocks with
  | case1 chain count => exact length_compress chain _ _ _ eight
  | case2 chain count last => exact length_compress chain _ _ _ eight
  | case3 chain count block next rest induction =>
      exact induction (length_compress chain _ _ _ eight)

private theorem length_flatMap_ofWord64 (words : List UInt64) :
    (words.flatMap Bytes.ofWord64).length = 8 * words.length := by
  induction words with
  | nil => rfl
  | cons word words induction =>
      rw [List.flatMap_cons, List.length_append, induction, Bytes.ofWord64,
        Bytes.length_littleEndian, List.length_cons]
      omega

theorem length_digest {size : Nat} (message : Bytes) (short : size ≤ 64) :
    (digest size message).length = size := by
  rw [digest, List.length_take, length_flatMap_ofWord64, length_absorb _ _ _ rfl]
  omega

end Digest.Blake2b

/-! ## Argon2id -/

namespace Argon2

open Digest.Blake2b

private theorem length_chain {links last : Nat} (linked : 0 < links) (short : last ≤ 64)
    {link : Bytes}
    (whole : link.length = 64) :
    (longDigest.chain links last link).length = 32 * links + last := by
  fun_induction longDigest.chain links last link with
  | case1 => exact absurd linked (by decide)
  | case2 last link =>
      rw [List.length_append, List.length_take, length_digest link short, whole]
      rfl
  | case3 last rest link induction =>
      rw [List.length_append, List.length_take, whole,
        induction (by omega) short (length_digest link (by decide))]
      omega

private theorem length_longDigest (length : Nat) (input : Bytes) :
    (longDigest length input).length = length := by
  rw [longDigest]
  split
  · next short => exact length_digest _ short
  · next long =>
    have whole : (digest 64 (word length ++ input)).length = 64 := length_digest _ (by decide)
    rw [length_chain (by omega) (by omega) whole]
    omega

theorem length_derive (secret salt : Bytes) (costs : Costs) (length : Nat) :
    (derive secret salt costs length).length = length :=
  length_longDigest length _

end Argon2

end AccessGate
