import AccessGate.Number.Shortest

/-!
# Decimal texts of a given precision

A quotient is written with a given number of decimal places, or with a given number of significant
digits.  It is rounded to the nearest such text, and to the one with an even last digit on a tie.
-/

namespace AccessGate.Decimal

/-- The digits of a number, with the decimal point in front of the given number of places.  Where no
place follows it, the point is only kept on demand. -/
def withPoint (places : Nat) (keepsPoint : Bool) (value : Nat) : List Char :=
  let digits := Double.digitsOf value
  let padded := List.replicate (places + 1 - digits.length) '0' ++ digits
  let whole := padded.length - places
  let point := if places = 0 && !keepsPoint then [] else ['.']
  padded.take whole ++ point ++ padded.drop whole

/-- A quotient with a given number of decimal places. -/
def fixed (places : Nat) (keepsPoint : Bool) (numerator denominator : Nat) : List Char :=
  withPoint places keepsPoint (Double.divideToEven (numerator * Nat.pow 10 places) denominator)

/-- The given number of significant digits of a quotient, and the exponent of the first one. -/
def significant (count numerator denominator : Nat) : Nat × Int :=
  if numerator = 0 then (0, 0)
  else
    let exponent := Double.decimalPoint numerator denominator - 1
    let shift := (count : Int) - 1 - exponent
    let digits :=
      if shift < 0 then Double.divideToEven numerator (denominator * Nat.pow 10 (-shift).toNat)
      else Double.divideToEven (numerator * Nat.pow 10 shift.toNat) denominator
    if digits = Nat.pow 10 count then (digits / 10, exponent + 1) else (digits, exponent)

/-- An exponent, with a sign and at least two digits. -/
def exponentPart (exponent : Int) : List Char :=
  let digits := Double.digitsOf exponent.natAbs
  'e' :: (if exponent < 0 then '-' else '+') ::
    (if digits.length < 2 then '0' :: digits else digits)

/-- A quotient with one digit in front of the decimal point, a given number of places behind it, and
an exponent. -/
def scientific (places : Nat) (keepsPoint : Bool) (numerator denominator : Nat) : List Char :=
  let (digits, exponent) := significant (places + 1) numerator denominator
  withPoint places keepsPoint digits ++ exponentPart exponent

/-- Drops the zeros at the end of decimal places, and the point if no place is left. -/
def dropZeroPlaces (characters : List Char) : List Char :=
  if characters.contains '.' then
    let kept := characters.reverse.dropWhile (· = '0')
    (if kept.head? = some '.' then kept.drop 1 else kept).reverse
  else characters

/-- A quotient with a positive number of significant digits: positional unless it is very small or
has more digits than that in front of the decimal point.  Zeros at the end are only kept on
demand. -/
def general (count : Nat) (keepsZeros : Bool) (numerator denominator : Nat) : List Char :=
  let (digits, exponent) := significant count numerator denominator
  let tidy (characters : List Char) := if keepsZeros then characters else dropZeroPlaces characters
  if -4 ≤ exponent && exponent < count then
    tidy (withPoint ((count : Int) - 1 - exponent).toNat keepsZeros digits)
  else tidy (withPoint (count - 1) keepsZeros digits) ++ exponentPart exponent

end AccessGate.Decimal
