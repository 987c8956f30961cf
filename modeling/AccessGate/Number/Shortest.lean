import AccessGate.Number.Double

/-!
# The shortest decimal text of a double

A finite double is written with the fewest decimal digits that read back as the same double, and of
those with the digits nearest to its value.  The text is positional while the decimal point falls
between four places before the first digit and sixteen after it, and otherwise uses an exponent of
at least two digits.  An integral value keeps a fraction of one zero.
-/

namespace AccessGate

namespace Double

/-- The values that round to a double, as twice-scaled bounds over a common denominator: the value
itself, half the gap below it and half the gap above it. -/
structure Neighbourhood where
  value : Nat
  below : Nat
  above : Nat
  denominator : Nat
  closed : Bool

/-- The neighbourhood of a positive finite double. -/
def neighbourhood (significand : Nat) (exponent : Int) : Neighbourhood :=
  let atPower := significand = Nat.pow 2 52 && exponent > -1074
  let (top, bottom) := magnitude significand exponent
  let unit := if exponent < 0 then 1 else Nat.pow 2 exponent.toNat
  { value := 4 * top
    below := if atPower then unit else 2 * unit
    above := 2 * unit
    denominator := 4 * bottom
    closed := significand % 2 = 0 }

/-- Whether the decimal `digits * 10 ^ power` reads back as the double of a neighbourhood. -/
def Neighbourhood.holds (near : Neighbourhood) (digits : Nat) (power : Int) : Bool :=
  let candidate := if power < 0 then digits * near.denominator
    else digits * Nat.pow 10 power.toNat * near.denominator
  let scale := if power < 0 then Nat.pow 10 (-power).toNat else 1
  let low := (near.value - near.below) * scale
  let high := (near.value + near.above) * scale
  if near.closed then low ≤ candidate && candidate ≤ high
  else low < candidate && candidate < high

/-- The decimal digits of a neighbourhood's value down to a power of ten, and twice the remainder
set against one unit of that power. -/
def Neighbourhood.quotient (near : Neighbourhood) (power : Int) : Nat × Ordering :=
  let (top, bottom) :=
    if power < 0 then (near.value * Nat.pow 10 (-power).toNat, near.denominator)
    else (near.value, near.denominator * Nat.pow 10 power.toNat)
  (top / bottom, compare (2 * (top % bottom)) bottom)

/-- The better of the two decimals around a value at a power of ten, if either reads back. -/
def Neighbourhood.pick? (near : Neighbourhood) (power : Int) : Option Nat :=
  let (digits, side) := near.quotient power
  match near.holds digits power && digits != 0, near.holds (digits + 1) power with
  | true, true =>
      match side with
      | .lt => some digits
      | .gt => some (digits + 1)
      | .eq => some (digits + digits % 2)
  | true, false => some digits
  | false, true => some (digits + 1)
  | false, false => none

/-- The digits of a natural number. -/
def digitsOf (value : Nat) : List Char :=
  Nat.toDigits 10 value

/-- The number of zeros between the decimal point and the first digit of a quotient below one, as
far as the given bound. -/
def leadingZeros (numerator denominator : Nat) : (bound : Nat) → Nat
  | 0 => 0
  | bound + 1 =>
      if denominator ≤ numerator * 10 then 0
      else leadingZeros (numerator * 10) denominator bound + 1

/-- The place of the decimal point of a quotient, counted from before its first digit.  No double
has more than 324 leading zeros. -/
def decimalPoint (numerator denominator : Nat) : Int :=
  if denominator ≤ numerator then (digitsOf (numerator / denominator)).length
  else -(leadingZeros numerator denominator 324 : Int)

/-- The fewest digits that read back as a positive finite double, with the power of ten of the last
one. -/
def shortest (significand : Nat) (exponent : Int) : Nat × Int :=
  let near := neighbourhood significand exponent
  let point := decimalPoint near.value near.denominator
  let rec search (remaining : Nat) (power : Int) : Nat × Int :=
    match remaining with
    | 0 => ((near.quotient power).1, power)
    | remaining + 1 =>
        match near.pick? power with
        | some digits => (digits, power)
        | none => search remaining (power - 1)
  search 17 (point - 1)

def dropTrailingZeros (digits : List Char) : List Char :=
  (digits.reverse.dropWhile (· = '0')).reverse

/-- The text of digits whose decimal point comes after the given number of them. -/
def layOut (digits : List Char) (point : Int) : List Char :=
  if -4 < point && point ≤ 16 then
    if point ≤ 0 then
      '0' :: '.' :: List.replicate (-point).toNat '0' ++ digits
    else if digits.length ≤ point.toNat then
      digits ++ List.replicate (point.toNat - digits.length) '0' ++ ['.', '0']
    else
      digits.take point.toNat ++ '.' :: digits.drop point.toNat
  else
    let exponent := point - 1
    let magnitude := digitsOf exponent.natAbs
    let mantissa := match digits with
      | [single] => [single]
      | first :: rest => first :: '.' :: rest
      | [] => []
    mantissa ++ 'e' :: (if exponent < 0 then '-' else '+') ::
      (if magnitude.length < 2 then '0' :: magnitude else magnitude)

/-- The shortest text of a double. -/
def render : Double → String
  | notANumber => "nan"
  | infinite negative => if negative then "-inf" else "inf"
  | finite negative significand exponent =>
      let body :=
        if significand = 0 then ['0', '.', '0']
        else
          let (value, power) := shortest significand exponent
          let all := digitsOf value
          layOut (dropTrailingZeros all) (all.length + power)
      String.ofList (if negative then '-' :: body else body)

end Double

end AccessGate
