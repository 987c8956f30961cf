import AccessGate.Key.Rsa
import AccessGate.Proofs.Bytes.Words
import AccessGate.Proofs.Number.Modular
import Mathlib.NumberTheory.LucasLehmer

/-!
# Signatures

What a private key signs is genuine under its public key, as long as the two numbers that the key
takes for primes are primes.
-/

namespace AccessGate.Rsa

/-- Signatures that are made with a private key are genuine under a public key. -/
def AreMates (signing : PrivateKey) (verifying : PublicKey) : Prop :=
  ∀ message signature, sign? signing message = some signature →
    verify verifying message signature = true

def KeyNumbers.publicKey (numbers : KeyNumbers) : PublicKey :=
  { modulus := numbers.modulus, exponent := numbers.publicExponent }

/-! ## Padding -/

theorem length_digest (message : Bytes) : (Digest.Sha256.digest message).length = 32 := by
  simp [Digest.Sha256.digest, Digest.Sha256.State.bytes]

theorem length_padded {length : Nat} (long : leastLength ≤ length) (message : Bytes) :
    (padded length message).length = length := by
  rw [leastLength] at long
  simp only [padded, List.length_cons, List.length_append, List.length_replicate, length_digest,
    digestName, List.length_nil]
  omega

private theorem toNat_padded_lt {modulus : Nat} (long : leastLength ≤ Bytes.width modulus)
    (message : Bytes) : Bytes.toNat (padded (Bytes.width modulus) message) < modulus := by
  have positive : modulus ≠ 0 := by
    rintro rfl
    exact absurd long (by decide)
  obtain ⟨tail, split⟩ : ∃ tail, padded (Bytes.width modulus) message = 0 :: tail := ⟨_, rfl⟩
  have length := length_padded long message
  rw [split, List.length_cons] at length
  rw [split, Bytes.toNat_cons_zero]
  refine Nat.lt_of_lt_of_le (Bytes.toNat_lt tail) ?_
  rw [show tail.length = Bytes.width modulus - 1 by omega]
  exact Bytes.pow_width_le positive

/-! ## Signatures -/

private theorem length?_eq_some {modulus length : Nat} (known : length? modulus = some length) :
    length = Bytes.width modulus ∧ leastLength ≤ Bytes.width modulus := by
  simp only [length?] at known
  split at known
  · cases known
    exact ⟨rfl, ‹_›⟩
  · cases known

private theorem areMates_of_undoes {modulus privateExponent publicExponent : Nat}
    (undoes : ∀ value < modulus, Modular.power modulus
      (Modular.power modulus value privateExponent) publicExponent = value)
    (practicable : PublicKey.isPracticable ⟨modulus, publicExponent⟩ = true) :
    AreMates ⟨modulus, privateExponent⟩ ⟨modulus, publicExponent⟩ := by
  intro message signature signed
  obtain ⟨length, known, rfl⟩ := Option.map_eq_some_iff.mp signed
  obtain ⟨rfl, long⟩ := length?_eq_some known
  have digest : Bytes.toNat (padded (Bytes.width modulus) message) < modulus :=
    toNat_padded_lt long message
  have length : (padded (Bytes.width modulus) message).length = Bytes.width modulus :=
    length_padded long message
  have undone := undoes _ digest
  have power_lt : Modular.power modulus
      (Bytes.toNat (padded (Bytes.width modulus) message)) privateExponent < modulus := by
    rw [Modular.power_eq]
    exact Nat.mod_lt _ (Nat.lt_of_le_of_lt (Nat.zero_le _) digest)
  have restored : Bytes.bigEndian (Bytes.width modulus)
      (Bytes.toNat (padded (Bytes.width modulus) message)) =
        padded (Bytes.width modulus) message := by
    have written := Bytes.bigEndian_toNat (padded (Bytes.width modulus) message)
    rwa [length] at written
  simp only [verify, known, practicable, Bytes.length_bigEndian,
    Bytes.toNat_bigEndian (Nat.lt_trans power_lt (Bytes.lt_pow_width modulus)), undone, restored,
    power_lt, decide_true, Bool.and_self]

/-- What a private key signs is genuine under its public key. -/
theorem KeyNumbers.areMates {numbers : KeyNumbers} (sound : numbers.isSound = true)
    (isFirst : numbers.firstPrime.Prime) (isSecond : numbers.secondPrime.Prime)
    (distinct : numbers.firstPrime ≠ numbers.secondPrime)
    (practicable : numbers.publicKey.isPracticable = true) :
    AreMates numbers.privateKey numbers.publicKey := by
  simp only [isSound, Bool.and_eq_true, decide_eq_true_eq] at sound
  obtain ⟨⟨⟨⟨⟨⟨⟨⟨_, _⟩, product⟩, _⟩, _⟩, inverts⟩, _⟩, _⟩, _⟩ := sound
  refine areMates_of_undoes ?_ practicable
  intro value small
  rw [product] at small ⊢
  exact Modular.power_power isFirst isSecond distinct inverts small

/-! ## Keys of two primes -/

/-- The numbers of a key with two primes and two exponents. -/
def KeyNumbers.ofPrimes (first second publicExponent privateExponent : Nat) : KeyNumbers where
  modulus := first * second
  publicExponent := publicExponent
  privateExponent := privateExponent
  firstPrime := first
  secondPrime := second
  firstExponent := privateExponent % (first - 1)
  secondExponent := privateExponent % (second - 1)
  coefficient := Modular.inverse first second

/-- The numbers of a key with the thirteenth Mersenne prime. -/
def KeyNumbers.mersenne : KeyNumbers :=
  .ofPrimes (2 ^ 521 - 1) 7 65537 ((1 + 49217 * (2 ^ 521 - 2)) / 65537)

theorem KeyNumbers.isSound_mersenne : KeyNumbers.mersenne.isSound = true := by
  decide +kernel

theorem KeyNumbers.areMates_mersenne :
    AreMates KeyNumbers.mersenne.privateKey KeyNumbers.mersenne.publicKey := by
  have isPrime : (2 ^ 521 - 1).Prime := lucas_lehmer_sufficiency 521 (by decide) (by norm_num)
  exact areMates isSound_mersenne isPrime (by decide) (by decide +kernel) (by decide +kernel)

end AccessGate.Rsa
