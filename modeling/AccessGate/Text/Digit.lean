/-!
# Decimal digits

Every script writes its ten decimal digits as ten consecutive characters, so the digit zero of each
script determines the other nine.
-/

namespace AccessGate.Text

/-- The code points of the digit zero of every script. -/
def digitZeros : List Nat :=
  [48, 1632, 1776, 1984, 2406, 2534, 2662, 2790, 2918, 3046, 3174, 3302, 3430, 3558, 3664, 3792,
    3872, 4160, 4240, 6112, 6160, 6470, 6608, 6784, 6800, 6992, 7088, 7232, 7248, 42528, 43216,
    43264, 43472, 43504, 43600, 44016, 65296, 66720, 68912, 69734, 69872, 69942, 70096, 70384,
    70736, 70864, 71248, 71360, 71472, 71904, 72016, 72784, 73040, 73120, 92768, 92864, 93008,
    120782, 120792, 120802, 120812, 120822, 123200, 123632, 125264, 130032]

/-- The value of a decimal digit of any script. -/
def digitValue? (character : Char) : Option Nat :=
  (digitZeros.find? fun first => first ≤ character.toNat && character.toNat < first + 10).map
    fun first => character.toNat - first

/-- Whether a character is a decimal digit of some script. -/
def isDigit (character : Char) : Bool :=
  (digitValue? character).isSome

/-- The number written by a list of digits, most significant first. -/
def ofDigits (digits : List Nat) : Nat :=
  digits.foldl (fun value digit => 10 * value + digit) 0

/-- The number written by decimal digits of any script, if there is at least one and nothing
else. -/
def readDigits? (characters : List Char) : Option Nat :=
  if characters.isEmpty then none else (characters.mapM digitValue?).map ofDigits

end AccessGate.Text
