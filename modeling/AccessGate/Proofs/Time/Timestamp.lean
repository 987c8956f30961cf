import AccessGate.Proofs.Number.Double
import AccessGate.Proofs.Time.Moment

/-!
# Counts of whole seconds

Whole seconds are taken from the nearest double number of seconds.  Up to the year 2514 doubles lie
close enough together to tell the last microsecond of a second from the next second; later ones
may not.
-/

namespace AccessGate

/-- The whole seconds of a number of microseconds, of which the fraction is cut off.  From `2 ^ 34`
seconds on, the next number further from zero may be taken instead. -/
def IsWholeSeconds (micros seconds : Int) : Prop :=
  seconds = micros.tdiv microsPerSecond ∨
    2 ^ 34 * microsPerSecond ≤ micros.natAbs ∧
      seconds = micros.tdiv microsPerSecond + micros.sign

theorem log2_microsPerSecond : microsPerSecond.log2 = 19 := by decide

/-- Times of less than half a million years have a fraction of microseconds, and those of less than
`2 ^ 34` seconds one of half a microsecond. -/
theorem exponentFor_micros {micros : Nat} (positive : micros ≠ 0) (short : micros < 2 ^ 64) :
    ∃ places, Double.exponentFor micros microsPerSecond = -(places + 1 : Nat) ∧
      (micros < 2 ^ 34 * microsPerSecond → 18 ≤ places) := by
  have size : micros.log2 < 64 := (Nat.log2_lt positive).mpr short
  have coarse : Double.exponentFor micros microsPerSecond ≤ -1 :=
    Double.exponentFor_le (by rw [log2_microsPerSecond]; omega) (by decide)
  refine ⟨(-Double.exponentFor micros microsPerSecond - 1).toNat, by omega, ?_⟩
  intro near
  have fine : Double.exponentFor micros microsPerSecond < -(17 + 1 : Nat) := by
    have smaller : micros.log2 < 54 := by
      rw [Nat.log2_lt positive]
      exact Nat.lt_of_lt_of_le near (by decide)
    refine Double.exponentFor_lt (by decide) ?_ ?_ (by decide)
    · rw [log2_microsPerSecond]
      omega
    · rw [microsPerSecond] at near ⊢
      omega
  omega

private theorem wholeSeconds_zero : Moment.wholeSeconds 0 = 0 := by
  decide +kernel

theorem tdiv_microsPerSecond (micros : Int) :
    micros.tdiv microsPerSecond =
      if micros < 0 then -((micros.natAbs / microsPerSecond : Nat) : Int)
      else (micros.natAbs / microsPerSecond : Nat) := by
  rcases Int.natAbs_eq micros with equality | equality
  · rw [if_neg (by omega)]
    generalize micros.natAbs = magnitude at equality ⊢
    rw [equality, Int.ofNat_tdiv]
  · by_cases zero : micros.natAbs = 0
    · rw [zero] at equality ⊢
      subst equality
      rfl
    · rw [if_pos (by omega)]
      generalize micros.natAbs = magnitude at equality ⊢
      rw [equality, Int.neg_tdiv, Int.ofNat_tdiv]

theorem isWholeSeconds_wholeSeconds {micros : Int} (short : micros.natAbs < 2 ^ 64) :
    IsWholeSeconds micros (Moment.wholeSeconds micros) := by
  by_cases zero : micros = 0
  · subst zero
    rw [wholeSeconds_zero]
    exact .inl rfl
  have positive : micros.natAbs ≠ 0 := by omega
  obtain ⟨places, exponent, fine⟩ := exponentFor_micros positive short
  rw [Moment.wholeSeconds, Moment.secondsOf, Double.truncate?_ofRatio positive exponent,
    Option.getD_some, IsWholeSeconds, tdiv_microsPerSecond]
  rcases Double.divideToEven_div_cases micros.natAbs (by decide : 0 < microsPerSecond)
    (places + 1) with same | ⟨wide, next⟩
  · left
    rw [same]
    simp
  · right
    rw [next]
    have far : 2 ^ 34 * microsPerSecond ≤ micros.natAbs := by
      apply Nat.le_of_not_lt
      intro near
      have spaced : 2 ^ 20 ≤ 2 * 2 ^ (places + 1) := by
        rw [← Nat.pow_succ']
        exact Nat.pow_le_pow_right (by decide) (by have := fine near; omega)
      exact absurd (Nat.le_trans spaced wide) (by decide)
    refine ⟨far, ?_⟩
    by_cases negative : micros < 0
    · simp only [negative, decide_true, if_true, Int.sign_eq_neg_one_of_neg negative]
      omega
    · simp only [negative, decide_false, Bool.false_eq_true, if_false,
        Int.sign_eq_one_of_pos (by omega : 0 < micros)]
      omega

theorem natAbs_lt_of_isWholeSeconds {micros seconds : Int} (whole : IsWholeSeconds micros seconds)
    (short : micros.natAbs < 2 ^ 64) : seconds.natAbs < 2 ^ 65 := by
  have quotient : (micros.tdiv microsPerSecond).natAbs ≤ micros.natAbs := by
    rw [Int.natAbs_tdiv]
    exact Nat.div_le_self _ _
  rcases whole with rfl | ⟨_, rfl⟩
  · omega
  · have unit : micros.sign.natAbs ≤ 1 := by
      rw [Int.natAbs_sign]
      split <;> decide
    omega

namespace Moment

theorem instant_bounds (moment : Moment) :
    -86400000000 < moment.instant ∧ moment.instant < 315537984000000000 := by
  have wall := moment.wall_lt
  have years : CalendarDate.daysBeforeYear 10000 = 3652059 := by decide
  have offset : ((moment.offset.map ClockOffset.micros).getD 0).natAbs < microsPerDay := by
    cases moment.offset with
    | none => decide
    | some offset => exact offset.micros_lt
  rw [years] at wall
  rw [instant]
  rw [microsPerDay] at wall offset
  omega

/-- No moment is a thousand million years away from the start of 1970. -/
theorem natAbs_sinceEpoch_lt (moment : Moment) : moment.sinceEpoch.natAbs < 2 ^ 64 := by
  have bounds := moment.instant_bounds
  have epoch : CalendarDate.daysBeforeYear 1970 = 719162 := by decide
  rw [sinceEpoch, epoch, microsPerDay]
  omega

theorem timestamp_of_offset {moment : Moment} (known : moment.offset.isSome = true) :
    moment.timestamp = .ok (secondsOf moment.sinceEpoch) := by
  obtain ⟨offset, equality⟩ := Option.isSome_iff_exists.mp known
  rw [timestamp, equality]
  rfl

theorem unixSeconds_eq_ok {moment : Moment} {seconds : Int}
    (counted : moment.unixSeconds = .ok seconds) : seconds = wholeSeconds moment.sinceEpoch := by
  rw [unixSeconds, timestamp] at counted
  split at counted <;> cases counted
  rfl

theorem isWholeSeconds_unixSeconds {moment : Moment} {seconds : Int}
    (counted : moment.unixSeconds = .ok seconds) : IsWholeSeconds moment.sinceEpoch seconds := by
  rw [unixSeconds_eq_ok counted]
  exact isWholeSeconds_wholeSeconds moment.natAbs_sinceEpoch_lt

end Moment

end AccessGate
