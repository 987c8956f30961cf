import AccessGate.Time.Quantity

/-!
# Instants

Comparisons of moments and moves by a quantity of time, told in terms of instants.  Every move keeps
the offset of the clock, so whether two moments can be compared does not change when they are moved.
-/

namespace AccessGate

/-- The microseconds of a quantity of seconds, zero where there is no such span. -/
def Quantity.span (seconds : Quantity) : Int :=
  (seconds.micros microsPerSecond).toOption.getD 0

theorem Quantity.span_of_micros {seconds : Quantity} {span : Int}
    (known : seconds.micros microsPerSecond = .ok span) : seconds.span = span := by
  simp [Quantity.span, known, Except.toOption]

/-- The longest spans that are considered, about a thousand years. -/
def longestSpan : Int := 366000 * microsPerDay

namespace Moment

/-- One moment does not come after another, which includes that they can be compared. -/
structure NotAfter (first second : Moment) : Prop where
  alike : first.alike second = true
  instant_le : first.instant ≤ second.instant

instance (first second : Moment) : Decidable (first.NotAfter second) :=
  decidable_of_iff (first.alike second = true ∧ first.instant ≤ second.instant)
    ⟨fun holds => ⟨holds.1, holds.2⟩, fun holds => ⟨holds.alike, holds.instant_le⟩⟩

/-! ## Comparing -/

theorem alike_iff {first second : Moment} :
    first.alike second = true ↔ first.offset.isSome = second.offset.isSome := by
  simp [alike]

theorem NotAfter.refl (moment : Moment) : moment.NotAfter moment :=
  ⟨alike_iff.mpr rfl, Int.le_refl _⟩

theorem alike_refl (moment : Moment) : moment.alike moment = true :=
  alike_iff.mpr rfl

theorem alike_symm {first second : Moment} (alike : first.alike second = true) :
    second.alike first = true :=
  alike_iff.mpr (alike_iff.mp alike).symm

theorem alike_trans {first second third : Moment} (before : first.alike second = true)
    (behind : second.alike third = true) : first.alike third = true :=
  alike_iff.mpr ((alike_iff.mp before).trans (alike_iff.mp behind))

theorem NotAfter.trans {first second third : Moment} (before : first.NotAfter second)
    (behind : second.NotAfter third) : first.NotAfter third :=
  ⟨alike_trans before.alike behind.alike, Int.le_trans before.instant_le behind.instant_le⟩

theorem isBefore_of_alike {first second : Moment} (alike : first.alike second = true) :
    first.isBefore second = .ok (decide (first.instant < second.instant)) := by
  simp only [isBefore, micros, alike, if_true, Except.map]
  congr 1
  exact decide_eq_decide.mpr Int.sub_pos

theorem isBefore_eq_ok {first second : Moment} {early : Bool}
    (answer : first.isBefore second = .ok early) :
    first.alike second = true ∧ early = decide (first.instant < second.instant) := by
  by_cases alike : first.alike second = true
  · rw [isBefore_of_alike alike] at answer
    cases answer
    exact ⟨alike, rfl⟩
  · simp [isBefore, micros, alike, Except.map] at answer

/-! ## Moving -/

theorem addMicros_eq_ok {moment moved : Moment} {micros : Int}
    (answer : moment.addMicros micros = .ok moved) :
    moved.instant = moment.instant + micros ∧ moved.offset = moment.offset := by
  unfold addMicros ofWall at answer
  split at answer
  · next reached =>
    cases answer
    refine ⟨?_, rfl⟩
    simp only [instant, Int.toNat_of_nonneg reached.1]
    omega
  · cases answer

theorem addMicros_succeeds {moment : Moment} {micros : Int} (low : 0 ≤ moment.wall + micros)
    (high : moment.wall + micros < (CalendarDate.daysBeforeYear 10000 * microsPerDay : Nat)) :
    ∃ moved, moment.addMicros micros = .ok moved := by
  have reached : 0 ≤ moment.wall + micros ∧
      (moment.wall + micros).toNat < CalendarDate.daysBeforeYear 10000 * microsPerDay :=
    ⟨low, by omega⟩
  exact ⟨_, by rw [addMicros, ofWall, dif_pos reached]⟩

theorem addSeconds_eq_ok {moment moved : Moment} {seconds : Quantity}
    (answer : moment.addSeconds seconds = .ok moved) :
    moved.instant = moment.instant + seconds.span ∧ moved.offset = moment.offset := by
  cases known : seconds.micros microsPerSecond with
  | error failure => simp [addSeconds, known, bind, Except.bind] at answer
  | ok span =>
      rw [Quantity.span_of_micros known]
      apply addMicros_eq_ok
      simpa [addSeconds, known, bind, Except.bind] using answer

theorem subtractSeconds_eq_ok {moment moved : Moment} {seconds : Quantity}
    (answer : moment.subtractSeconds seconds = .ok moved) :
    moved.instant = moment.instant - seconds.span ∧ moved.offset = moment.offset := by
  cases known : seconds.micros microsPerSecond with
  | error failure => simp [subtractSeconds, known, bind, Except.bind] at answer
  | ok span =>
      rw [Quantity.span_of_micros known, Int.sub_eq_add_neg]
      apply addMicros_eq_ok
      simpa [subtractSeconds, known, bind, Except.bind] using answer

theorem addSeconds_succeeds {moment : Moment} {seconds : Quantity}
    (known : ∃ span, seconds.micros microsPerSecond = .ok span)
    (low : 0 ≤ moment.wall + seconds.span)
    (high : moment.wall + seconds.span <
      (CalendarDate.daysBeforeYear 10000 * microsPerDay : Nat)) :
    ∃ moved, moment.addSeconds seconds = .ok moved := by
  obtain ⟨span, known⟩ := known
  rw [Quantity.span_of_micros known] at low high
  simpa [addSeconds, known, bind, Except.bind] using addMicros_succeeds low high

theorem subtractSeconds_succeeds {moment : Moment} {seconds : Quantity}
    (known : ∃ span, seconds.micros microsPerSecond = .ok span)
    (low : 0 ≤ moment.wall - seconds.span)
    (high : moment.wall - seconds.span <
      (CalendarDate.daysBeforeYear 10000 * microsPerDay : Nat)) :
    ∃ moved, moment.subtractSeconds seconds = .ok moved := by
  obtain ⟨span, known⟩ := known
  rw [Quantity.span_of_micros known, Int.sub_eq_add_neg] at low high
  simpa [subtractSeconds, known, bind, Except.bind] using addMicros_succeeds low high

/-! ## Far from both ends -/

/-- A moment some microseconds after the middle of the range of years, which starts over at its
end. -/
def middle (wait : Nat) : Moment where
  wall := (150000000000000000 + wait) % (CalendarDate.daysBeforeYear 10000 * microsPerDay)
  offset := some .universal
  wall_lt := Nat.mod_lt _ (by decide)

theorem wall_middle_of_le_double {wait : Nat} (short : (wait : Int) ≤ 2 * longestSpan) :
    (middle wait).wall = 150000000000000000 + wait := by
  have range : CalendarDate.daysBeforeYear 10000 * microsPerDay = 315537897600000000 := by decide
  have span : longestSpan = 31622400000000000 := by decide
  apply Nat.mod_eq_of_lt
  omega

theorem instant_middle_of_le_double {wait : Nat} (short : (wait : Int) ≤ 2 * longestSpan) :
    (middle wait).instant = 150000000000000000 + wait := by
  have universal : (middle wait).instant = ((middle wait).wall : Int) := Int.sub_zero _
  rw [universal, wall_middle_of_le_double short]
  exact Int.natCast_add ..

theorem notAfter_middle {early late : Nat} (near : (late : Int) ≤ 2 * longestSpan)
    (order : early ≤ late) : (middle early).NotAfter (middle late) := by
  refine ⟨rfl, ?_⟩
  rw [instant_middle_of_le_double near, instant_middle_of_le_double (by omega)]
  omega

theorem le_double_of_le {wait : Int} (short : wait ≤ longestSpan) : wait ≤ 2 * longestSpan := by
  have span : longestSpan = 31622400000000000 := by decide
  omega

theorem wall_middle {wait : Nat} (short : (wait : Int) ≤ longestSpan) :
    (middle wait).wall = 150000000000000000 + wait :=
  wall_middle_of_le_double (le_double_of_le short)

theorem instant_middle {wait : Nat} (short : (wait : Int) ≤ longestSpan) :
    (middle wait).instant = 150000000000000000 + wait :=
  instant_middle_of_le_double (le_double_of_le short)

end Moment

end AccessGate
