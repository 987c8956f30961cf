/-!
# Double precision numbers

A finite double is a signed significand below `2 ^ 53` times a power of two with exponent at least
`-1074`.  All arithmetic here is exact arithmetic on natural numbers, so rounding happens in one
place only: `ofRatio` picks the nearest double, and the one with the even significand on a tie.
-/

namespace AccessGate

/-- A number in the binary double precision format. -/
inductive Double where
  | notANumber
  | infinite (negative : Bool)
  | finite (negative : Bool) (significand : Nat) (exponent : Int)
  deriving DecidableEq, Repr, Inhabited

namespace Double

def zero (negative : Bool) : Double :=
  finite negative 0 (-1074)

/-- A quotient rounded to the nearest natural number, and to the even one on a tie. -/
def divideToEven (numerator denominator : Nat) : Nat :=
  let quotient := numerator / denominator
  let twice := 2 * (numerator % denominator)
  if twice < denominator then quotient
  else if twice = denominator then quotient + quotient % 2
  else quotient + 1

/-- A quotient divided by a power of two, as numerator and denominator. -/
def scaled (numerator denominator : Nat) (exponent : Int) : Nat × Nat :=
  if exponent < 0 then (numerator * Nat.pow 2 (-exponent).toNat, denominator)
  else (numerator, denominator * Nat.pow 2 exponent.toNat)

/-- The exponent that gives a positive quotient a significand of 53 bits, or the least exponent
where the quotient is too small for that. -/
def exponentFor (numerator denominator : Nat) : Int :=
  let guess : Int := (numerator.log2 : Int) - denominator.log2 - 52
  let (top, bottom) := scaled numerator denominator guess
  max (if top / bottom < Nat.pow 2 52 then guess - 1 else guess) (-1074)

/-- The double nearest to a quotient. -/
def ofRatio (negative : Bool) (numerator denominator : Nat) : Double :=
  if numerator = 0 then zero negative
  else
    let exponent := exponentFor numerator denominator
    let (top, bottom) := scaled numerator denominator exponent
    let significand := divideToEven top bottom
    let (significand, exponent) :=
      if significand = Nat.pow 2 53 then (Nat.pow 2 52, exponent + 1) else (significand, exponent)
    if exponent > 971 then infinite negative else finite negative significand exponent

/-- The double nearest to `digits * 10 ^ exponent`.  Far outside the range of doubles the power of
ten is not computed. -/
def ofDecimal (negative : Bool) (digits : Nat) (exponent : Int) : Double :=
  let size : Int := digits.log2 / 3 + exponent
  if digits = 0 || size < -400 then zero negative
  else if exponent > 400 then infinite negative
  else if exponent < 0 then ofRatio negative digits (Nat.pow 10 (-exponent).toNat)
  else ofRatio negative (digits * Nat.pow 10 exponent.toNat) 1

/-- The double nearest to an integer. -/
def ofInt (value : Int) : Double :=
  ofRatio (value < 0) value.natAbs 1

/-- The magnitude of a finite double, as numerator and denominator. -/
def magnitude (significand : Nat) (exponent : Int) : Nat × Nat :=
  if exponent < 0 then (significand, Nat.pow 2 (-exponent).toNat)
  else (significand * Nat.pow 2 exponent.toNat, 1)

/-- The integer part of a finite double, rounded toward zero. -/
def truncate? : Double → Option Int
  | finite negative significand exponent =>
      let (top, bottom) := magnitude significand exponent
      some (if negative then -((top / bottom : Nat) : Int) else (top / bottom : Nat))
  | _ => none

/-- What is left of a finite double without its integer part. -/
def fraction : Double → Double
  | finite negative significand exponent =>
      let (top, bottom) := magnitude significand exponent
      ofRatio negative (top % bottom) bottom
  | double => double

/-- A finite double multiplied by a natural number. -/
def times (factor : Nat) : Double → Double
  | finite negative significand exponent =>
      let (top, bottom) := magnitude significand exponent
      ofRatio negative (top * factor) bottom
  | double => double

/-- The integer nearest to a finite double, and the even one on a tie. -/
def round : Double → Int
  | finite negative significand exponent =>
      let (top, bottom) := magnitude significand exponent
      if negative then -(divideToEven top bottom : Int) else divideToEven top bottom
  | _ => 0

/-- The integer that a finite double equals, if there is one. -/
def toInt? : Double → Option Int
  | finite negative significand exponent =>
      let (top, bottom) := magnitude significand exponent
      if top % bottom = 0 then
        some (if negative then -((top / bottom : Nat) : Int) else (top / bottom : Nat))
      else none
  | _ => none

def lessThanInt : Double → Int → Bool
  | notANumber, _ => false
  | infinite negative, _ => negative
  | finite negative significand exponent, value =>
      let (top, bottom) := magnitude significand exponent
      (if negative then -(top : Int) else top) < value * bottom

def isLess : Double → Double → Bool
  | notANumber, _ | _, notANumber => false
  | infinite negative, infinite positive => negative && !positive
  | infinite negative, finite _ _ _ => negative
  | finite _ _ _, infinite negative => !negative
  | finite negative significand exponent, finite negative' significand' exponent' =>
      let (top, bottom) := magnitude significand exponent
      let (top', bottom') := magnitude significand' exponent'
      (if negative then -(top : Int) else top) * bottom' <
        (if negative' then -(top' : Int) else top') * bottom

end Double

end AccessGate
