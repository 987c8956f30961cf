import AccessGate.Text.Blank
import AccessGate.Text.Digit
import AccessGate.Text.Split

/-!
# Integers as text

An integer is written with the decimal digits of any script.  Blanks around it and a sign in front
are passed over, and single underscores may stand between digits.
-/

namespace AccessGate.Text

/-- The greatest number of digits that is read. -/
def greatestDigits : Nat := 4300

/-- Reads digits, with single underscores between them. -/
def readUnsigned? (characters : List Char) : Option Nat :=
  let parts := splitAt '_' characters
  if (parts.all fun part => !part.isEmpty) && parts.flatten.length ≤ greatestDigits then
    readDigits? parts.flatten
  else none

def readInteger? (text : String) : Option Int :=
  match trimSpaces text.toList with
  | '-' :: digits => (readUnsigned? digits).map fun size => -(size : Int)
  | '+' :: digits => (readUnsigned? digits).map Int.ofNat
  | digits => (readUnsigned? digits).map Int.ofNat

end AccessGate.Text
