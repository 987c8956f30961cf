import AccessGate.Json.Display
import AccessGate.Number.Decimal

/-!
# Message templates

In a template a percent sign begins a conversion, which stands for the next argument, or for a named
field of the one object that is the argument.  A conversion ends in a letter, and flags, a width and
a precision may stand in front of the letter:

* `s`, `r` and `a` show any value: as it stands alone, as it is shown inside other values, and the
  same in ASCII;
* `d`, `i` and `u` write whole numbers, and `o`, `x` and `X` write integers to other bases;
* `e`, `f` and `g` write numbers with an exponent, with fixed places, and with whichever of both is
  the shorter one; capital letters give capital texts;
* `c` gives a single character.

Two percent signs in a row stand for one.  A star for the width or the precision takes it from the
next argument.
-/

namespace AccessGate

/-- Why a template cannot be filled. -/
inductive TemplateError where
  /-- Arguments are missing, left over, or of the wrong kind. -/
  | wrongArgument
  /-- The template is not well-formed, or a number is none. -/
  | unreadable
  | outOfRange
  | missingField
  deriving DecidableEq, Repr

namespace Template

/-- The number of bits of a width, without its sign. -/
def widthBits : Nat := 63

/-- The number of bits of a precision, without its sign. -/
def precisionBits : Nat := 31

/-- A width or a precision. -/
inductive Extent where
  | unset
  | given (count : Nat)
  /-- The next argument tells. -/
  | argument
  deriving DecidableEq, Repr

/-- A conversion. -/
structure Conversion where
  /-- The name of the field to show. -/
  field : Option String := none
  flags : List Char := []
  width : Extent := .unset
  precision : Extent := .unset
  /-- The letter that the conversion ends in, unless the template ends in front of it. -/
  letter : Option Char

namespace Conversion

/-- Whether a number gets a mark of its notation. -/
def isAlternate (conversion : Conversion) : Bool :=
  conversion.flags.contains '#'

/-- The character that fills up the width on the left. -/
def isZeroFilled (conversion : Conversion) : Bool :=
  conversion.flags.contains '0'

end Conversion

/-- Reads a name up to the parenthesis that closes it.  Parentheses within it are balanced. -/
def name? (depth : Nat) : List Char → Option (List Char × List Char)
  | [] => none
  | character :: rest =>
      if character = ')' && depth = 0 then some ([], rest)
      else
        let depth :=
          if character = '(' then depth + 1 else if character = ')' then depth - 1 else depth
        (name? depth rest).map fun (name, rest) => (character :: name, rest)

/-- Reads a width or a precision, if there is one. -/
def extent (characters : List Char) : Extent × List Char :=
  match characters with
  | '*' :: rest => (.argument, rest)
  | _ =>
      match characters.takeWhile Char.isDigit with
      | [] => (.unset, characters)
      | digits =>
          (.given (Nat.ofDigitChars 10 digits 0), characters.dropWhile Char.isDigit)

def isFlag (character : Char) : Bool :=
  "#0- +".toList.contains character

/-- Reads what follows the percent sign and the name of a field. -/
def plainConversion (field : Option String) (characters : List Char) : Conversion × List Char :=
  let flags := characters.takeWhile isFlag
  let (width, rest) := extent (characters.dropWhile isFlag)
  let (precision, rest) := match rest with
    | '.' :: rest =>
        let (precision, rest) := extent rest
        (if precision = .unset then .given 0 else precision, rest)
    | rest => (.unset, rest)
  let rest := match rest with
    | 'h' :: rest | 'l' :: rest | 'L' :: rest => rest
    | rest => rest
  ({ field, flags, width, precision, letter := rest.head? }, rest.tail)

/-- Reads what follows a percent sign. -/
def conversion? : List Char → Option (Conversion × List Char)
  | '(' :: rest => (name? 0 rest).map fun (name, rest) =>
      plainConversion (some (String.ofList name)) rest
  | characters => some (plainConversion none characters)

/-- The digits of a number in lower case. -/
def digits (base value : Nat) : List Char :=
  (Nat.toDigits base value).map Char.toLower

/-- The text of an integer, with at least the given number of digits. -/
def integerText (base : Nat) (mark : List Char) (precision : Nat) (value : Int) : List Char :=
  let digits := digits base value.natAbs
  let zeros := List.replicate (precision - digits.length) '0'
  (if value < 0 then ['-'] else []) ++ mark ++ zeros ++ digits

/-- The whole number of an argument. -/
def whole : Json → Except TemplateError Int
  | .int value => .ok value
  | .bool value => .ok (if value then 1 else 0)
  | .float .notANumber => .error .unreadable
  | .float value => match value.truncate? with
      | some value => .ok value
      | none => .error .outOfRange
  | _ => .error .wrongArgument

/-- The integer of an argument, which may not be a number of another kind. -/
def integer : Json → Except TemplateError Int
  | .float _ => .error .wrongArgument
  | value => whole value

/-- The double of an argument. -/
def double (value : Json) : Except TemplateError Double :=
  match value with
  | .float value => .ok value
  | value => do
      match Double.ofInt (← integer value) with
      | .infinite _ => .error .outOfRange
      | double => .ok double

/-- The number of significant digits of which no double has more. -/
def mostDigits : Nat := 767

/-- The text of a double.  With an exponent, the greatest precision leaves no room for the digit in
front of the point and counts as zero. -/
def doubleText (letter : Char) (isAlternate : Bool) (precision : Nat) : Double → List Char
  | .finite negative significand exponent =>
      let (numerator, denominator) := Double.magnitude significand exponent
      (if negative then ['-'] else []) ++ match letter with
        | 'f' => Decimal.fixed precision isAlternate numerator denominator
        | 'e' =>
            let places := if precision + 1 < Nat.pow 2 precisionBits then precision else 0
            Decimal.scientific places isAlternate numerator denominator
        | _ =>
            let count := if isAlternate then precision else min precision mostDigits
            Decimal.general (max count 1) isAlternate numerator denominator
  | value => value.render.toList

/-- A single character from its code or a text. -/
def single : Json → Except TemplateError Char
  | .text value => match value.toList with
      | [character] => .ok character
      | _ => .error .wrongArgument
  | value => do
      let code ← integer value
      if 0 ≤ code && code.toNat.isValidChar then .ok (Char.ofNat code.toNat) else .error .outOfRange

/-- Writes the characters of a shown value that are not ASCII as escapes. -/
def inAscii (characters : List Char) : List Char :=
  characters.flatMap fun character =>
    if character.toNat < 0x80 then [character]
    else if character.toNat < 0x100 then '\\' :: 'x' :: Text.hexDigits 2 character.toNat
    else if character.toNat < 0x10000 then '\\' :: 'u' :: Text.hexDigits 4 character.toNat
    else '\\' :: 'U' :: Text.hexDigits 8 character.toNat

/-- A converted argument, before it is filled up to its width. -/
structure Converted where
  /-- A plus or a minus sign, or a space in its place. -/
  sign : List Char := []
  /-- The mark of the base. -/
  mark : List Char := []
  text : List Char
  /-- Whether zeros may fill it up. -/
  isNumber : Bool := true

/-- A converted number.  Its sign is taken apart. -/
def number (flags : List Char) (mark text : List Char) : Converted :=
  match text with
  | '-' :: text => { sign := ['-'], mark, text }
  | text =>
      let sign := if flags.contains '+' then ['+'] else if flags.contains ' ' then [' '] else []
      { sign, mark, text }

/-- A converted value that is no number. -/
def shown (precision : Option Nat) (text : List Char) : Converted :=
  { text := (precision.map text.take).getD text, isNumber := false }

/-- The number of digits that an integer is written with at least. -/
def leastDigits (precision : Option Nat) : Except TemplateError Nat :=
  match precision with
  | none => .ok 1
  | some precision =>
      if precision + 4 ≤ Nat.pow 2 precisionBits then .ok precision else .error .outOfRange

/-- Converts an argument as a letter tells. -/
def convert (conversion : Conversion) (letter : Char) (precision : Option Nat) (argument : Json) :
    Except TemplateError Converted :=
  let isCapital := letter.isUpper
  let capital (text : List Char) := if isCapital then text.map Char.toUpper else text
  let ofBase (base : Nat) : Except TemplateError Converted := do
    let mark := if conversion.isAlternate then ['0', letter] else []
    let value ← integer argument
    return number conversion.flags mark
      (capital (integerText base [] (← leastDigits precision) value))
  match letter with
  | 's' => .ok (shown precision argument.display.toList)
  | 'r' => .ok (shown precision (Json.Display.nested argument))
  | 'a' => .ok (shown precision (inAscii (Json.Display.nested argument)))
  | 'c' => do return shown none [← single argument]
  | 'd' | 'i' | 'u' => do
      let value ← whole argument
      return number conversion.flags [] (integerText 10 [] (← leastDigits precision) value)
  | 'o' => ofBase 8
  | 'x' | 'X' => ofBase 16
  | 'e' | 'f' | 'g' | 'E' | 'F' | 'G' => do
      return number conversion.flags [] (capital
        (doubleText letter.toLower conversion.isAlternate (precision.getD 6) (← double argument)))
  | _ => .error .unreadable

/-- Fills a converted argument up to a width. -/
def fillUp (isLeft isZeroFilled : Bool) (width : Nat) (converted : Converted) : List Char :=
  let head := converted.sign ++ converted.mark
  let missing := width - head.length - converted.text.length
  if isLeft then head ++ converted.text ++ List.replicate missing ' '
  else if isZeroFilled && converted.isNumber then
    head ++ List.replicate missing '0' ++ converted.text
  else List.replicate missing ' ' ++ head ++ converted.text

/-- What is left of the arguments: the next ones, or one object with named fields, which counts as
one argument until it is used. -/
structure Arguments where
  next : List Json
  fields : Option (List (String × Json)) := none

/-- Takes the next argument. -/
def Arguments.take (arguments : Arguments) : Except TemplateError (Json × Arguments) :=
  match arguments.next with
  | argument :: next => .ok (argument, { arguments with next })
  | [] => .error .wrongArgument

/-- Takes the argument that a conversion asks for. -/
def Arguments.select (arguments : Arguments) (field : Option String) :
    Except TemplateError Arguments :=
  match field, arguments.fields with
  | none, _ => .ok arguments
  | some _, none => .error .wrongArgument
  | some name, some fields =>
      match Json.fieldOf? name fields with
      | some value => .ok { arguments with next := [value] }
      | none => .error .missingField

/-- Takes a width or a precision from the arguments, if they tell it.  It has to fit in the given
number of bits. -/
def Arguments.extent (arguments : Arguments) (bits : Nat) :
    Extent → Except TemplateError (Option Int × Arguments)
  | .unset => .ok (none, arguments)
  | .given count =>
      if count < Nat.pow 2 bits then .ok (some count, arguments) else .error .unreadable
  | .argument => do
      let (value, arguments) ← arguments.take
      let count ← integer value
      if -(Nat.pow 2 bits : Int) ≤ count && count < (Nat.pow 2 bits : Int) then
        return (some count, arguments)
      else .error .outOfRange

/-- Puts the arguments into a conversion.  A negative width fills up on the right, unless it has no
positive counterpart; a negative precision counts as zero. -/
def apply (conversion : Conversion) (arguments : Arguments) :
    Except TemplateError (List Char × Arguments) := do
  let arguments ← arguments.select conversion.field
  let (width, arguments) ← arguments.extent widthBits conversion.width
  let (precision, arguments) ← arguments.extent precisionBits conversion.precision
  let some letter := conversion.letter | .error .unreadable
  let (argument, arguments) ← arguments.take
  let converted ← convert conversion letter (precision.map Int.toNat) argument
  let width := width.getD 0
  let isLeft := conversion.flags.contains '-' || width < 0
  let filled := if width.natAbs < Nat.pow 2 widthBits then width.natAbs else 0
  return (fillUp isLeft conversion.isZeroFilled filled converted, arguments)

/-- Fills a template that has at most the given number of characters. -/
def fillCharacters (bound : Nat) (template : List Char) (arguments : Arguments) :
    Except TemplateError (List Char) :=
  match bound, template with
  | bound + 1, '%' :: '%' :: rest => do
      return '%' :: (← fillCharacters bound rest arguments)
  | bound + 1, '%' :: rest => do
      if rest.head? = some '(' && arguments.fields.isNone then .error .wrongArgument
      let some (conversion, rest) := conversion? rest | .error .unreadable
      let (text, arguments) ← apply conversion arguments
      return text ++ (← fillCharacters bound rest arguments)
  | bound + 1, character :: rest => do
      return character :: (← fillCharacters bound rest arguments)
  | _, _ =>
      if arguments.next.isEmpty || arguments.fields.isSome then .ok [] else .error .wrongArgument

/-- Fills a template; one without arguments is taken as it is. -/
def fill (template : String) (arguments : List Json) : Except TemplateError String :=
  let given : Arguments := match arguments with
    | [.object (field :: fields)] => { next := arguments, fields := some (field :: fields) }
    | _ => { next := arguments }
  if arguments.isEmpty then .ok template
  else (fillCharacters template.length template.toList given).map String.ofList

end Template

end AccessGate
