import AccessGate.Number.Modular
import Mathlib.FieldTheory.Finite.Basic

/-!
# Powers modulo a product of two primes

Repeated squaring gives powers, and an exponent that is one more than a multiple of both primes less
one leaves every number as it is.
-/

namespace AccessGate.Modular

theorem power_eq (modulus base exponent : Nat) :
    power modulus base exponent = base ^ exponent % modulus := by
  induction exponent using Nat.strongRecOn generalizing base with
  | _ exponent induction =>
      rw [power]
      by_cases zero : exponent = 0
      · rw [if_pos zero, zero, Nat.pow_zero]
      · have half := induction (exponent / 2) (by omega) (base * base % modulus)
        have squared : (base * base % modulus) ^ (exponent / 2) % modulus =
            base ^ (2 * (exponent / 2)) % modulus := by
          rw [← Nat.pow_mod, ← Nat.pow_two, ← Nat.pow_mul]
        rw [if_neg zero]
        simp only [half, squared]
        split
        · rename_i odd
          rw [Nat.mod_mul_mod, ← Nat.pow_succ]
          congr 2
          omega
        · congr 2
          omega

/-- Raising to one more than a multiple of a prime less one changes nothing modulo the prime. -/
theorem pow_modEq_of_prime {prime exponent : Nat} (isPrime : prime.Prime)
    (cycle : prime - 1 ∣ exponent) (base : Nat) : base ^ (exponent + 1) ≡ base [MOD prime] := by
  by_cases divides : prime ∣ base
  · have zero : base ≡ 0 [MOD prime] := (Nat.modEq_zero_iff_dvd).mpr divides
    have power : base ^ (exponent + 1) ≡ 0 [MOD prime] :=
      (Nat.modEq_zero_iff_dvd).mpr (dvd_pow divides (by omega))
    exact power.trans zero.symm
  · obtain ⟨rounds, rfl⟩ := cycle
    have coprime : Nat.Coprime base prime :=
      ((Nat.Prime.coprime_iff_not_dvd isPrime).mpr divides).symm
    have one : base ^ (prime - 1) ≡ 1 [MOD prime] := by
      rw [← Nat.totient_prime isPrime]
      exact Nat.ModEq.pow_totient coprime
    calc base ^ ((prime - 1) * rounds + 1)
        = (base ^ (prime - 1)) ^ rounds * base := by rw [pow_succ, pow_mul]
      _ ≡ 1 ^ rounds * base [MOD prime] := (one.pow rounds).mul_right base
      _ = base := by rw [one_pow, one_mul]

theorem power_power {first second exponent inverse value : Nat} (isFirst : first.Prime)
    (isSecond : second.Prime) (distinct : first ≠ second)
    (inverts : exponent * inverse % (first - 1).lcm (second - 1) = 1)
    (small : value < first * second) :
    power (first * second) (power (first * second) value exponent) inverse = value := by
  have rounds := Nat.div_add_mod (exponent * inverse) ((first - 1).lcm (second - 1))
  rw [inverts] at rounds
  have cycle : (first - 1).lcm (second - 1) ∣
      (first - 1).lcm (second - 1) * (exponent * inverse / (first - 1).lcm (second - 1)) :=
    Nat.dvd_mul_right _ _
  have coprime : Nat.Coprime first second := (Nat.coprime_primes isFirst isSecond).mpr distinct
  have same : value ^ (exponent * inverse) ≡ value [MOD first * second] := by
    rw [← rounds]
    apply (Nat.modEq_and_modEq_iff_modEq_mul coprime).mp
    constructor
    · exact pow_modEq_of_prime isFirst ((Nat.dvd_lcm_left _ _).trans cycle) value
    · exact pow_modEq_of_prime isSecond ((Nat.dvd_lcm_right _ _).trans cycle) value
  rw [power_eq, power_eq, ← Nat.pow_mod, ← Nat.pow_mul]
  exact Nat.mod_eq_of_modEq same small

end AccessGate.Modular
