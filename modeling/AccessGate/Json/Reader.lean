import AccessGate.Json.Value
import AccessGate.Text.Digit
import AccessGate.Text.Hexadecimal

/-!
# Reading JSON

Besides standard JSON the reader accepts `NaN`, `Infinity` and `-Infinity`, and reads numbers with
a fraction or an exponent as doubles, however large.  Of several fields with one name the last
counts.  Control characters inside a text are refused.  An integer may have at most 4300 digits, and
lists and objects may only nest to a limited depth.

A refusal tells the character position at which reading stopped.  Internally positions are
counted from the end of the text, as the number of characters that are left.
-/

namespace AccessGate.Json

/-- Why a text is not read as a JSON value. -/
inductive ReadError where
  | malformed (position : Nat)
  | oversizedInteger
  | tooDeep
  deriving DecidableEq, Repr

namespace Reader

/-- Where reading stopped, by the number of characters left. -/
inductive Stop where
  | left (count : Nat)
  | oversizedInteger
  | tooDeep

/-- What a reading step found, with the characters that follow it. -/
abbrev Found (α : Type) := Except Stop (α × List Char)

/-- The characters that may stand between the parts of a value. -/
def isGap (character : Char) : Bool :=
  character = ' ' || character = '\t' || character = '\n' || character = '\r'

/-- Skips the gap at the front. -/
def dropGap (characters : List Char) : List Char :=
  characters.dropWhile isGap

/-- The code unit written by four hexadecimal digits. -/
def codeUnit? (a b c d : Char) : Option Nat :=
  match Text.hexValue? a, Text.hexValue? b, Text.hexValue? c, Text.hexValue? d with
  | some a, some b, some c, some d => some (((a * 16 + b) * 16 + c) * 16 + d)
  | _, _, _, _ => none

/-- The character that a one-letter escape stands for. -/
def shortEscape? : Char → Option Char
  | '"' => some '"'
  | '\\' => some '\\'
  | '/' => some '/'
  | 'b' => some '\x08'
  | 'f' => some '\x0c'
  | 'n' => some '\n'
  | 'r' => some '\r'
  | 't' => some '\t'
  | _ => none

/-- Puts a code in front of what was read after it. -/
def withCode (code : Nat) (found : Found (List Nat)) : Found (List Nat) :=
  found.map fun (codes, rest) => (code :: codes, rest)

/-- Reads a text up to its closing quote, as code points and escaped code units.  `opening` tells
where its opening quote stands. -/
def textCodes (opening : Nat) : List Char → Found (List Nat)
  | [] => .error (.left opening)
  | '"' :: rest => .ok ([], rest)
  | ['\\'] => .error (.left opening)
  | '\\' :: 'u' :: a :: b :: c :: d :: rest =>
      match codeUnit? a b c d with
      | some unit =>
          if rest.isEmpty then .error (.left 5) else withCode unit (textCodes opening rest)
      | none => .error (.left (rest.length + 5))
  | '\\' :: escaped :: rest =>
      match shortEscape? escaped with
      | some character => withCode character.toNat (textCodes opening rest)
      | none => .error (.left (rest.length + if escaped = 'u' then 1 else 2))
  | character :: rest =>
      if character.toNat < 0x20 then .error (.left (rest.length + 1))
      else withCode character.toNat (textCodes opening rest)

/-- Whether a code is the first half of a surrogate pair. -/
def isHighHalf (code : Nat) : Bool :=
  0xd800 ≤ code && code < 0xdc00

/-- Whether a code is the second half of a surrogate pair. -/
def isLowHalf (code : Nat) : Bool :=
  0xdc00 ≤ code && code < 0xe000

/-- A code as a character; a half without its partner becomes the replacement character. -/
def characterOf (code : Nat) : Char :=
  if isHighHalf code || isLowHalf code then '\ufffd' else Char.ofNat code

/-- Joins the halves of surrogate pairs. -/
def joinPairs : List Nat → List Char
  | [] => []
  | [code] => [characterOf code]
  | high :: low :: rest =>
      if isHighHalf high && isLowHalf low then
        Char.ofNat (0x10000 + (high - 0xd800) * 0x400 + (low - 0xdc00)) :: joinPairs rest
      else
        characterOf high :: joinPairs (low :: rest)

/-- Reads a text after its opening quote. -/
def text (characters : List Char) : Found String :=
  (textCodes (characters.length + 1) characters).map fun (codes, rest) =>
    (String.ofList (joinPairs codes), rest)

/-- The digits at the front, and what follows them. -/
def digits (characters : List Char) : List Char × List Char :=
  characters.span Char.isDigit

/-- The number written by ASCII digits. -/
def numberOf (digits : List Char) : Nat :=
  Text.ofDigits (digits.map fun digit => digit.toNat - 48)

/-- The digits of a fraction, if one follows. -/
def fraction? : List Char → Option (List Char × List Char)
  | '.' :: digit :: rest =>
      if digit.isDigit then some (digits (digit :: rest)) else none
  | _ => none

/-- The value of an exponent, if one follows. -/
def exponent? : List Char → Option (Int × List Char)
  | letter :: rest =>
      if letter = 'e' ∨ letter = 'E' then
        let (negative, rest) := match rest with
          | '-' :: rest => (true, rest)
          | '+' :: rest => (false, rest)
          | _ => (false, rest)
        let (found, rest) := digits rest
        if found.isEmpty then none
        else some (if negative then -(numberOf found : Int) else numberOf found, rest)
      else none
  | [] => none

/-- The digits before the point of a number: a single zero, or digits that start with another. -/
def wholePart? : List Char → Option (List Char × List Char)
  | '0' :: rest => some (['0'], rest)
  | digit :: rest => if digit.isDigit then some (digits (digit :: rest)) else none
  | [] => none

/-- The greatest number of digits of an integer. -/
def integerDigits : Nat := 4300

def number (characters : List Char) : Found Json :=
  let (negative, unsigned) := match characters with
    | '-' :: rest => (true, rest)
    | _ => (false, characters)
  match wholePart? unsigned with
  | none => .error (.left characters.length)
  | some (whole, rest) =>
      let (decimals, afterFraction) := (fraction? rest).getD ([], rest)
      match exponent? afterFraction with
      | some (exponent, rest) =>
          .ok (.float (.ofDecimal negative (numberOf (whole ++ decimals))
            (exponent - decimals.length)), rest)
      | none =>
          if decimals.isEmpty then
            if whole.length > integerDigits then .error .oversizedInteger
            else
              let value : Int := numberOf whole
              .ok (.int (if negative then -value else value), rest)
          else
            .ok (.float (.ofDecimal negative (numberOf (whole ++ decimals)) (-decimals.length)),
              afterFraction)

/-- What follows a word at the front, if it is there. -/
def afterWord? : (word characters : List Char) → Option (List Char)
  | [], characters => some characters
  | expected :: word, character :: characters =>
      if expected = character then afterWord? word characters else none
  | _ :: _, [] => none

def wordValues : List (List Char × Json) :=
  [("null".toList, .null), ("true".toList, .bool true), ("false".toList, .bool false),
    ("NaN".toList, .float .notANumber), ("Infinity".toList, .float (.infinite false)),
    ("-Infinity".toList, .float (.infinite true))]

/-- Reads a value that has no parts: a word or a number. -/
def scalar (characters : List Char) : Found Json :=
  match wordValues.findSome? fun (word, value) =>
      (afterWord? word characters).map fun rest => (value, rest) with
  | some found => .ok found
  | none => number characters

/-- The greatest depth to which lists and objects may nest. -/
def greatestDepth : Nat := 980

mutual

/-- Reads a value.  The bound counts the nested steps that are left, the depth the levels. -/
def value : (bound depth : Nat) → List Char → Found Json
  | 0, _, characters => .error (.left characters.length)
  | bound + 1, depth, characters =>
      match characters, depth with
      | [], _ => .error (.left 0)
      | '"' :: rest, _ => (text rest).map fun (found, rest) => (.text found, rest)
      | '{' :: _, 0 | '[' :: _, 0 => .error .tooDeep
      | '{' :: rest, depth + 1 =>
          match dropGap rest with
          | '}' :: rest => .ok (.object [], rest)
          | rest => (members bound depth [] rest).map fun (fields, rest) => (.object fields, rest)
      | '[' :: rest, depth + 1 =>
          match dropGap rest with
          | ']' :: rest => .ok (.list [], rest)
          | rest => (items bound depth rest).map fun (found, rest) => (.list found, rest)
      | _, _ => scalar characters

/-- Reads the items of a list up to its closing bracket. -/
def items : (bound depth : Nat) → List Char → Except Stop (List Json × List Char)
  | 0, _, characters => .error (.left characters.length)
  | bound + 1, depth, characters => do
      let (first, rest) ← value bound depth characters
      match dropGap rest with
      | ']' :: rest => .ok ([first], rest)
      | ',' :: rest =>
          let (others, rest) ← items bound depth (dropGap rest)
          .ok (first :: others, rest)
      | rest => .error (.left rest.length)

/-- Reads the fields of an object up to its closing brace, after those already read. -/
def members : (bound depth : Nat) → List (String × Json) → List Char →
    Except Stop (List (String × Json) × List Char)
  | 0, _, _, characters => .error (.left characters.length)
  | bound + 1, depth, fields, characters =>
      match characters with
      | '"' :: rest => do
          let (name, rest) ← text rest
          match dropGap rest with
          | ':' :: rest =>
              let (found, rest) ← value bound depth (dropGap rest)
              let fields := putField name found fields
              match dropGap rest with
              | '}' :: rest => .ok (fields, rest)
              | ',' :: rest => members bound depth fields (dropGap rest)
              | rest => .error (.left rest.length)
          | rest => .error (.left rest.length)
      | _ => .error (.left characters.length)

end

/-- Reads a whole list of characters as one value. -/
def document (characters : List Char) : Except Stop Json := do
  let (found, rest) ← value (2 * characters.length + 2) greatestDepth (dropGap characters)
  let rest := dropGap rest
  if rest.isEmpty then .ok found else .error (.left rest.length)

end Reader

def read (text : String) : Except ReadError Json :=
  let characters := text.toList
  match Reader.document characters with
  | .ok found => .ok found
  | .error (.left count) => .error (.malformed (characters.length - count))
  | .error .oversizedInteger => .error .oversizedInteger
  | .error .tooDeep => .error .tooDeep

/-- Reads a text as one JSON value, where a byte order mark in front is refused. -/
def readUnmarked (text : String) : Except ReadError Json :=
  if text.toList.head? = some '\ufeff' then .error (.malformed 0) else read text

end AccessGate.Json
