/-!
# Arithmetic modulo a number

Powers are taken by repeated squaring.  A prime is recognised by its powers: for a prime, the power
of any base to the odd part of one less than the prime is one, or becomes minus one when it is
squared often enough.
-/

namespace AccessGate.Modular

def power (modulus base exponent : Nat) : Nat :=
  if exponent = 0 then 1 % modulus
  else
    let rest := power modulus (base * base % modulus) (exponent / 2)
    if exponent % 2 = 1 then rest * base % modulus else rest

/-- The number that gives one when it is multiplied by a number that is no multiple of the prime. -/
def inverse (prime value : Nat) : Nat :=
  power prime value (prime - 2)

/-- How often a number can be halved, and what is left. -/
def halvings (value : Nat) : Nat × Nat :=
  if value = 0 then (0, 0)
  else if value % 2 = 1 then (0, value)
  else
    let (count, odd) := halvings (value / 2)
    (count + 1, odd)

/-- Whether a value or one of its repeated squares is minus one, within a number of steps. -/
def reachesMinusOne (modulus : Nat) : (count value : Nat) → Bool
  | 0, _ => false
  | count + 1, value =>
      value = modulus - 1 || reachesMinusOne modulus count (value * value % modulus)

/-- Whether the powers of a base leave it open that an odd number is a prime. -/
def admits (number base : Nat) : Bool :=
  let (count, odd) := halvings (number - 1)
  let value := power number base odd
  base % number = 0 || value = 1 || reachesMinusOne number count value

/-- The bases by which primes are recognised. -/
def bases : List Nat := [2, 3, 5, 7, 11, 13, 17, 19, 23, 29, 31, 37]

/-- Whether a number is an odd prime.  This is exact below 3 · 10^23; beyond, only numbers that are
made to deceive all bases are mistaken for primes. -/
def isOddPrime (number : Nat) : Bool :=
  3 ≤ number && number % 2 = 1 && bases.all (admits number)

end AccessGate.Modular
