import AccessGate.Json.Value
import AccessGate.Number.Shortest
import AccessGate.Time.Moment

/-!
# Quantities of time

A quantity counts units of time: seconds, or minutes.  A whole number of units is exact.  A fraction
of a unit is multiplied as a double and then rounded to the nearest microsecond, and to the even one
on a tie.  A span of time has at most 999999999 days in either direction.
-/

namespace AccessGate

/-- A number of units of time. -/
inductive Quantity where
  | whole (count : Int)
  | fractional (count : Double)
  deriving DecidableEq, Repr

/-- A span of microseconds, unless it is too long. -/
def spanOf (micros : Int) : Except TimeError Int :=
  if (micros.fdiv microsPerDay).natAbs ≤ 999999999 then .ok micros else .error .outOfRange

namespace Quantity

/-- The quantity that a number tells. -/
def ofJson? : Json → Option Quantity
  | .int count => some (whole count)
  | .bool flag => some (whole (if flag then 1 else 0))
  | .float count => some (fractional count)
  | _ => none

def toJson : Quantity → Json
  | whole count => .int count
  | fractional count => .float count

def render : Quantity → String
  | whole count => toString count
  | fractional count => count.render

def isZero : Quantity → Bool
  | whole count => count = 0
  | fractional count => count.toInt? = some 0

/-- A quantity, or the default where it is missing or zero. -/
def chosen (option : Option Quantity) (default : Quantity) : Quantity :=
  (option.filter fun quantity => !quantity.isZero).getD default

/-- The microseconds of a quantity, given those of a unit. -/
def micros (unit : Nat) : Quantity → Except TimeError Int
  | whole count => spanOf (count * unit)
  | fractional count =>
      match count.truncate? with
      | some units => spanOf (units * unit + (count.fraction.times unit).round)
      | none => .error (if count = .notANumber then .notANumber else .outOfRange)

end Quantity

/-- Moves a moment by a number of seconds. -/
def Moment.addSeconds (moment : Moment) (seconds : Quantity) : Except TimeError Moment := do
  moment.addMicros (← seconds.micros microsPerSecond)

/-- Moves a moment back by a number of seconds. -/
def Moment.subtractSeconds (moment : Moment) (seconds : Quantity) : Except TimeError Moment := do
  moment.addMicros (-(← seconds.micros microsPerSecond))

end AccessGate
