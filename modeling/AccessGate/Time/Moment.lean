import AccessGate.Number.Double
import AccessGate.Time.Calendar

/-!
# Moments

A moment is a wall-clock reading of the years 1 to 9999 in microseconds, together with the offset
of its clock from universal time when that is known.  Arithmetic moves the wall clock and keeps the
offset; leaving the range of years fails.  Two readings can be compared when both offsets are known
or neither is, and then the instants count, not the wall clocks.
-/

namespace AccessGate

/-- Why a calculation with moments has no answer. -/
inductive TimeError where
  /-- The result lies outside the years 1 to 9999. -/
  | outOfRange
  /-- Only one of the two offsets is known. -/
  | unlikeOffsets
  /-- A clock with an unknown offset has no count of seconds on its first day. -/
  | tooEarly
  /-- A quantity of time is not a number. -/
  | notANumber
  deriving DecidableEq, Repr

/-- The number of microseconds in a second. -/
def microsPerSecond : Nat := 1000000

def microsPerDay : Nat := 86400000000

/-- The lead of a clock over universal time, less than a day in either direction. -/
structure ClockOffset where
  micros : Int
  micros_lt : micros.natAbs < microsPerDay
  deriving DecidableEq, Repr

/-- The clock that shows universal time. -/
def ClockOffset.universal : ClockOffset := ⟨0, by decide⟩

/-- A wall-clock reading. -/
structure Moment where
  /-- Microseconds since the start of year 1. -/
  wall : Nat
  offset : Option ClockOffset
  wall_lt : wall < CalendarDate.daysBeforeYear 10000 * microsPerDay
  deriving DecidableEq, Repr

namespace Moment

/-- The reading of a clock after a number of microseconds, if it lies within the range of years. -/
def ofWall (wall : Int) (offset : Option ClockOffset) : Except TimeError Moment :=
  if reached : 0 ≤ wall ∧ wall.toNat < CalendarDate.daysBeforeYear 10000 * microsPerDay then
    .ok ⟨wall.toNat, offset, reached.2⟩
  else
    .error .outOfRange

def addMicros (moment : Moment) (micros : Int) : Except TimeError Moment :=
  ofWall (moment.wall + micros) moment.offset

/-- The microseconds of universal time since the start of year 1.  A clock without a known offset
counts as showing universal time. -/
def instant (moment : Moment) : Int :=
  moment.wall - (moment.offset.map ClockOffset.micros).getD 0

/-- Whether the offsets of two moments are both known or both unknown. -/
def alike (first second : Moment) : Bool :=
  first.offset.isSome == second.offset.isSome

/-- The microseconds from one moment to another. -/
def micros (start finish : Moment) : Except TimeError Int :=
  if start.alike finish then .ok (finish.instant - start.instant) else .error .unlikeOffsets

def isBefore (first second : Moment) : Except TimeError Bool :=
  (first.micros second).map fun elapsed => decide (0 < elapsed)

/-- A number of microseconds as the nearest double number of seconds. -/
def secondsOf (micros : Int) : Double :=
  .ofRatio (micros < 0) micros.natAbs microsPerSecond

/-- The whole seconds of a number of microseconds, taken from the nearest double and rounded toward
zero. -/
def wholeSeconds (micros : Int) : Int :=
  (secondsOf micros).truncate?.getD 0

/-- The microseconds from the start of 1970 to a moment. -/
def sinceEpoch (moment : Moment) : Int :=
  moment.instant - (CalendarDate.daysBeforeYear 1970 * microsPerDay : Nat)

/-- The seconds from the start of 1970 to a moment. -/
def timestamp (moment : Moment) : Except TimeError Double :=
  if moment.offset.isNone && moment.wall < microsPerDay then .error .tooEarly
  else .ok (secondsOf moment.sinceEpoch)

/-- The whole seconds from the start of 1970 to a moment. -/
def unixSeconds (moment : Moment) : Except TimeError Int :=
  moment.timestamp.map fun seconds => seconds.truncate?.getD 0

end Moment

end AccessGate
