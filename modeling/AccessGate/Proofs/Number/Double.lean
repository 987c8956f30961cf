import AccessGate.Number.Double
import Mathlib

/-!
# Rounding quotients

The integer part of the double nearest to a quotient is the integer part of the quotient, unless
doubles lie so far apart there that the quotient rounds up to the next integer.
-/

namespace AccessGate.Double

/-! ## Rounding to an integer -/

private theorem le_divideToEven (numerator denominator : Nat) :
    numerator / denominator ≤ divideToEven numerator denominator := by
  simp only [divideToEven]
  split
  · exact Nat.le_refl _
  split <;> omega

private theorem divideToEven_le (numerator : Nat) {denominator : Nat} (positive : 0 < denominator) :
    2 * (divideToEven numerator denominator * denominator) ≤ 2 * numerator + denominator := by
  have whole := Nat.div_add_mod numerator denominator
  have rest := Nat.mod_lt numerator positive
  rw [Nat.mul_comm] at whole
  simp only [divideToEven]
  split
  · omega
  split
  · rename_i tie
    have parity : numerator / denominator % 2 * denominator ≤ denominator := by
      have : numerator / denominator % 2 ≤ 1 := by omega
      exact Nat.le_trans (Nat.mul_le_mul_right _ this) (by omega)
    rw [Nat.add_mul]
    omega
  · rw [Nat.add_mul]
    omega

/-! ## Integer parts -/

/-- Rounded at a power of two, a quotient keeps its integer part or reaches the next integer.  The
latter takes a denominator of at least twice the power. -/
theorem divideToEven_div_cases (numerator : Nat) {denominator : Nat} (positive : 0 < denominator)
    (places : Nat) :
    divideToEven (numerator * 2 ^ places) denominator / 2 ^ places = numerator / denominator ∨
      2 * 2 ^ places ≤ denominator ∧
        divideToEven (numerator * 2 ^ places) denominator / 2 ^ places =
          numerator / denominator + 1 := by
  have power : 0 < 2 ^ places := Nat.pow_pos (by decide)
  generalize 2 ^ places = unit at power ⊢
  have upper := divideToEven_le (numerator * unit) positive
  have lower : numerator / denominator * unit ≤ divideToEven (numerator * unit) denominator := by
    refine Nat.le_trans ?_ (le_divideToEven _ _)
    rw [Nat.le_div_iff_mul_le positive, Nat.mul_right_comm]
    exact Nat.mul_le_mul_right _ (Nat.div_mul_le_self numerator denominator)
  have next : numerator * unit + unit ≤ (numerator / denominator + 1) * unit * denominator := by
    have beyond : numerator + 1 ≤ (numerator / denominator + 1) * denominator := by
      rw [Nat.mul_comm]
      exact Nat.lt_mul_div_succ numerator positive
    rw [Nat.mul_right_comm, ← Nat.succ_mul]
    exact Nat.mul_le_mul_right unit beyond
  generalize divideToEven (numerator * unit) denominator = rounded at upper lower ⊢
  by_cases reaches : (numerator / denominator + 1) * unit ≤ rounded
  · right
    have scaled := Nat.mul_le_mul_right denominator reaches
    have tight : rounded ≤ (numerator / denominator + 1) * unit := by
      apply Nat.le_of_not_lt
      intro beyond
      have more := Nat.mul_le_mul_right denominator (Nat.succ_le_of_lt beyond)
      rw [Nat.succ_mul] at more
      omega
    refine ⟨by omega, ?_⟩
    rw [Nat.le_antisymm tight reaches, Nat.mul_div_cancel _ power]
  · left
    exact Nat.div_eq_of_lt_le lower (Nat.lt_of_not_le reaches)

/-- The integer part of a nearest double with places behind the point. -/
theorem truncate?_ofRatio {negative : Bool} {numerator denominator places : Nat}
    (nonzero : numerator ≠ 0)
    (exponent : exponentFor numerator denominator = -(places + 1 : Nat)) :
    (ofRatio negative numerator denominator).truncate? =
      some (let whole := divideToEven (numerator * 2 ^ (places + 1)) denominator / 2 ^ (places + 1)
        if negative then -(whole : Int) else whole) := by
  have scale : scaled numerator denominator (-(places + 1 : Nat)) =
      (numerator * 2 ^ (places + 1), denominator) := by
    rw [scaled, if_pos (by omega)]
    simp
  rw [ofRatio, if_neg nonzero]
  simp only [exponent, scale]
  generalize divideToEven (numerator * 2 ^ (places + 1)) denominator = rounded
  by_cases carry : rounded = Nat.pow 2 53
  · -- the carry moves the significand by one place, and the exponent along
    have next : -((places + 1 : Nat) : Int) + 1 = -(places : Int) := by omega
    have halved : rounded / 2 ^ (places + 1) = Nat.pow 2 52 / 2 ^ places := by
      have doubled : Nat.pow 2 53 = Nat.pow 2 52 * 2 := rfl
      rw [carry, doubled, Nat.pow_succ, Nat.mul_div_mul_right _ _ (by decide)]
    rw [if_pos carry, halved]
    simp only [next]
    rw [if_neg (by omega), truncate?, magnitude]
    cases places with
    | zero => simp
    | succ places =>
        rw [if_pos (by omega)]
        simp
  · rw [if_neg carry]
    simp only
    rw [if_neg (by omega), truncate?, magnitude, if_pos (by omega)]
    simp

/-! ## Exponents -/

theorem exponentFor_le {numerator denominator : Nat} {bound : Int}
    (small : (numerator.log2 : Int) - denominator.log2 - 52 ≤ bound) (least : -1074 ≤ bound) :
    exponentFor numerator denominator ≤ bound := by
  rw [exponentFor]
  dsimp only
  split <;> omega

/-- Where the logarithms leave one place in doubt, the quotient itself decides. -/
theorem exponentFor_lt {numerator denominator places : Nat} (positive : 0 < denominator)
    (small : (numerator.log2 : Int) - denominator.log2 - 52 ≤ -(places + 1 : Nat))
    (short : numerator * 2 ^ (places + 1) < 2 ^ 52 * denominator) (few : places < 1000) :
    exponentFor numerator denominator < -(places + 1 : Nat) := by
  by_cases exact : (numerator.log2 : Int) - denominator.log2 - 52 = -(places + 1 : Nat)
  · have scale : scaled numerator denominator (-(places + 1 : Nat)) =
        (numerator * 2 ^ (places + 1), denominator) := by
      rw [scaled, if_pos (by omega)]
      simp
    have below : numerator * 2 ^ (places + 1) / denominator < Nat.pow 2 52 :=
      (Nat.div_lt_iff_lt_mul positive).mpr short
    rw [exponentFor]
    simp only [exact, scale]
    rw [if_pos below]
    omega
  · have bounded : exponentFor numerator denominator ≤ -(places + 1 : Nat) - 1 :=
      exponentFor_le (by omega) (by omega)
    omega

end AccessGate.Double
