import AccessGate.Text.Integer
import AccessGate.Text.Split
import AccessGate.Validation.Flaw

/-!
# Validating single values

Numbers and flags are taken in several forms: whole doubles count as numbers, and texts that spell
a number or a flag count as that.
-/

namespace AccessGate.Validated

def text : Json → Validated String
  | .text value => .ok value
  | _ => flaw .notText

/-- A text that is not empty. -/
def filledText : Json → Validated String
  | .text value => if value.isEmpty then flaw .textTooShort else .ok value
  | _ => flaw .notText

def optionalText : Json → Validated (Option String)
  | .null => .ok none
  | json => (text json).map some

def texts : Json → Validated (List String)
  | .list found => items text found
  | _ => flaw .notList

/-- Drops leading zeros and the underscores among them, but leaves one character in front of the
decimal point or the end.  Any other beginning than a digit or a minus is refused. -/
def dropZeros : List Char → Option (List Char)
  | '0' :: rest => skip '0' rest
  | '-' :: rest => some ('-' :: rest)
  | character :: rest => if character.isDigit then some (character :: rest) else none
  | [] => none
where
  /-- Goes on behind a zero or an underscore. -/
  skip (last : Char) : List Char → Option (List Char)
    | [] => some [last]
    | character :: rest =>
        if character = '0' || character = '_' then skip character rest
        else if character.isDigit || character = '-' then some (character :: rest)
        else if character = '.' then some (last :: character :: rest)
        else none

/-- Drops a decimal point that zeros follow, and nothing else. -/
def dropFraction (characters : List Char) : List Char :=
  match characters.dropWhile (· ≠ '.') with
  | _ :: '0' :: fraction =>
      if fraction.all (· = '0') then characters.takeWhile (· ≠ '.') else characters
  | _ => characters

/-- Drops single underscores between other characters. -/
def dropUnderscores (characters : List Char) : List Char :=
  let parts := Text.splitAt '_' characters
  if parts.all fun part => !part.isEmpty then parts.flatten else characters

/-- The plain form of a number: blanks around it, a plus, leading zeros, underscores between digits
and a fraction of zeros are left out. -/
def plainForm? (characters : List Char) : Option (List Char) :=
  let tidy (characters : List Char) := (dropZeros characters).map (dropUnderscores ∘ dropFraction)
  match Text.trimSpaces characters with
  | '+' :: '-' :: _ => none
  | '+' :: rest => tidy rest
  | '-' :: rest => (tidy rest).map ('-' :: ·)
  | rest => tidy rest

/-- The greatest length of a number's plain form, its minus included. -/
def greatestLength : Nat := 4300

/-- The number spelled by ASCII digits after an optional minus, without leading zeros.  A beginning
that is too long is refused at once. -/
def plainNumber (characters : List Char) : Except FlawKind Int :=
  let (isNegative, digits) := match characters with
    | '-' :: rest => (true, rest)
    | _ => (false, characters)
  let first := digits.takeWhile Char.isDigit
  if first.isEmpty || (first.head? = some '0' && 1 < first.length) then .error .notNumberText
  else if greatestLength < first.length + (if isNegative then 1 else 0) then .error .numberTooLong
  else if first.length < digits.length then .error .notNumberText
  else
    let size : Nat := first.foldl (fun value digit => 10 * value + (digit.toNat - 48)) 0
    .ok (if isNegative then -(size : Int) else size)

/-- The number that a text spells, as it stands or in its plain form. -/
def spelledNumber (value : String) : Validated Int :=
  match plainNumber value.toList with
  | .ok number => .ok number
  | .error .numberTooLong => flaw .numberTooLong
  | .error _ =>
      match (plainForm? value.toList).map plainNumber with
      | some (.ok number) => .ok number
      | _ => flaw .notNumberText

def number : Json → Validated Int
  | .int value => .ok value
  | .bool value => .ok (if value then 1 else 0)
  | .text value => spelledNumber value
  | .float value =>
      match value.truncate?, value.toInt? with
      | none, _ => flaw .notFinite
      | some _, none => flaw .fractional
      | some _, some value => if value.natAbs < Nat.pow 2 63 then .ok value
          else flaw .numberTooLong
  | _ => flaw .notNumber

/-- The texts that spell a set flag. -/
def setFlags : List String := ["1", "t", "y", "on", "yes", "true"]

/-- The texts that spell a cleared flag. -/
def clearedFlags : List String := ["0", "f", "n", "no", "off", "false"]

/-- The flag that a text spells, in any letter case. -/
def spelledFlag (value : String) : Validated Bool :=
  let value := value.map Char.toLower
  if setFlags.contains value then .ok true
  else if clearedFlags.contains value then .ok false
  else flaw .notFlagText

def numberedFlag (value : Int) : Validated Bool :=
  if value = 1 then .ok true else if value = 0 then .ok false else flaw .notFlagText

/-- A flag.  A number beyond 64 bits and a double that is not whole are no spelling of a flag. -/
def flag : Json → Validated Bool
  | .bool value => .ok value
  | .text value => spelledFlag value
  | .int value =>
      if -(Nat.pow 2 63 : Int) ≤ value && value < (Nat.pow 2 63 : Int) then numberedFlag value
      else flaw .notFlag
  | .float value =>
      match number (.float value) with
      | .ok value => numberedFlag value
      | .error _ => flaw .notFlag
  | _ => flaw .notFlag

end AccessGate.Validated
