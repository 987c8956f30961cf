import AccessGate.Digest.Sha256
import AccessGate.Number.Modular

/-!
# RSA keys and signatures

A message is signed by padding its digest to the length of the modulus and raising the padded
number to the private exponent.  A signature has exactly the length of the modulus, and is verified
by raising it to the public exponent and comparing the outcome with the padded digest.  A private
key is stored together with the two primes of its modulus and what follows from them, and all these
numbers have to fit together.
-/

namespace AccessGate.Rsa

/-- The public half of a key. -/
structure PublicKey where
  modulus : Nat
  exponent : Nat
  deriving DecidableEq, Repr

/-- The private half of a key. -/
structure PrivateKey where
  modulus : Nat
  exponent : Nat
  deriving DecidableEq, Repr

/-- Whether the numbers of a public key may belong to a key. -/
def PublicKey.isSound (key : PublicKey) : Bool :=
  3 ≤ key.modulus && 3 ≤ key.exponent && key.exponent < key.modulus && key.exponent % 2 = 1

/-- The numbers that a private key is stored as. -/
structure KeyNumbers where
  modulus : Nat
  publicExponent : Nat
  privateExponent : Nat
  firstPrime : Nat
  secondPrime : Nat
  /-- The private exponent modulo one less than the first prime. -/
  firstExponent : Nat
  /-- The private exponent modulo one less than the second prime. -/
  secondExponent : Nat
  /-- The inverse of the second prime modulo the first. -/
  coefficient : Nat
  deriving DecidableEq, Repr

/-- Whether the numbers of a private key fit together. -/
def KeyNumbers.isSound (numbers : KeyNumbers) : Bool :=
  let first := numbers.firstPrime - 1
  let second := numbers.secondPrime - 1
  numbers.publicExponent % 2 = 1 && numbers.publicExponent ≠ 1 &&
    numbers.modulus = numbers.firstPrime * numbers.secondPrime &&
    Modular.isOddPrime numbers.firstPrime && Modular.isOddPrime numbers.secondPrime &&
    numbers.privateExponent * numbers.publicExponent % first.lcm second = 1 &&
    numbers.firstExponent = numbers.privateExponent % first &&
    numbers.secondExponent = numbers.privateExponent % second &&
    numbers.coefficient = Modular.inverse numbers.firstPrime numbers.secondPrime

def KeyNumbers.privateKey (numbers : KeyNumbers) : PrivateKey :=
  { modulus := numbers.modulus, exponent := numbers.privateExponent }

/-- What names the digest in front of it. -/
def digestName : Bytes :=
  [0x30, 0x31, 0x30, 0x0d, 0x06, 0x09, 0x60, 0x86, 0x48, 0x01, 0x65, 0x03, 0x04, 0x02, 0x01, 0x05,
    0x00, 0x04, 0x20]

def padded (length : Nat) (message : Bytes) : Bytes :=
  let digest := digestName ++ Digest.Sha256.digest message
  0x00 :: 0x01 :: (List.replicate (length - digest.length - 3) 0xff ++ 0x00 :: digest)

/-- The least length of a modulus: a padded digest has at least eight bytes of padding. -/
def leastLength : Nat := 62

/-- The length of a modulus that is long enough for signatures. -/
def length? (modulus : Nat) : Option Nat :=
  let length := Bytes.width modulus
  if leastLength ≤ length then some length else none

/-- Signs a message, with a key that is long enough. -/
def sign? (key : PrivateKey) (message : Bytes) : Option Bytes :=
  (length? key.modulus).map fun length =>
    Bytes.bigEndian length
      (Modular.power key.modulus (Bytes.toNat (padded length message)) key.exponent)

/-- Whether a public key is small enough to be calculated with. -/
def PublicKey.isPracticable (key : PublicKey) : Bool :=
  key.modulus < Nat.pow 2 16384 &&
    (key.modulus < Nat.pow 2 3072 || key.exponent < Nat.pow 2 64)

def verify (key : PublicKey) (message signature : Bytes) : Bool :=
  match length? key.modulus with
  | none => false
  | some length =>
      key.isPracticable && signature.length = length && Bytes.toNat signature < key.modulus &&
        Bytes.bigEndian length
            (Modular.power key.modulus (Bytes.toNat signature) key.exponent) =
          padded length message

end AccessGate.Rsa
