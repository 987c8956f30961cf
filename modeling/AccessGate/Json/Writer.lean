import AccessGate.Json.Value
import AccessGate.Number.Shortest
import AccessGate.Text.Quoted

/-!
# Writing JSON

Written JSON is ASCII: quotes and backslashes are escaped, the usual control characters have short
escapes, and everything outside the range from space to tilde is written in code units of four
lower-case hexadecimal digits.  Layouts differ in the text between items and after field names.
-/

namespace AccessGate.Json

/-- The text between items and the text after a field's name. -/
structure Layout where
  betweenItems : List Char
  afterName : List Char

/-- A layout with a space after every comma and colon. -/
def Layout.spaced : Layout := ⟨[',', ' '], [':', ' ']⟩

/-- A layout without spaces. -/
def Layout.compact : Layout := ⟨[','], [':']⟩

namespace Writer

def unitEscape (unit : Nat) : List Char :=
  '\\' :: 'u' :: Text.hexDigits 4 unit

def character (character : Char) : List Char :=
  if character = '"' then ['\\', '"']
  else if character = '\\' then ['\\', '\\']
  else if character = '\n' then ['\\', 'n']
  else if character = '\r' then ['\\', 'r']
  else if character = '\t' then ['\\', 't']
  else if character = '\x0c' then ['\\', 'f']
  else if character = '\x08' then ['\\', 'b']
  else if 0x20 ≤ character.toNat && character.toNat < 0x7f then [character]
  else if character.toNat < 0x10000 then unitEscape character.toNat
  else
    let offset := character.toNat - 0x10000
    unitEscape (0xd800 + offset / 0x400) ++ unitEscape (0xdc00 + offset % 0x400)

/-- A text between double quotes. -/
def text (value : String) : List Char :=
  '"' :: (value.toList.flatMap character ++ ['"'])

/-- A double: the shortest decimal text, or the word for a value that is not finite. -/
def float : Double → List Char
  | .notANumber => "NaN".toList
  | .infinite false => "Infinity".toList
  | .infinite true => "-Infinity".toList
  | value => value.render.toList

def int (value : Int) : List Char :=
  if value < 0 then '-' :: Double.digitsOf value.natAbs else Double.digitsOf value.natAbs

mutual

def value (layout : Layout) : Json → List Char
  | .null => "null".toList
  | .bool true => "true".toList
  | .bool false => "false".toList
  | .int value => int value
  | .float value => float value
  | .text value => text value
  | .list found => '[' :: items layout found
  | .object fields => '\x7b' :: members layout fields

/-- The items of a list and its closing bracket. -/
def items (layout : Layout) : List Json → List Char
  | [] => [']']
  | [last] => value layout last ++ [']']
  | item :: next :: rest =>
      value layout item ++ layout.betweenItems ++ items layout (next :: rest)

/-- The fields of an object and its closing brace. -/
def members (layout : Layout) : List (String × Json) → List Char
  | [] => ['\x7d']
  | [(name, last)] => text name ++ layout.afterName ++ value layout last ++ ['\x7d']
  | (name, item) :: next :: rest =>
      text name ++ layout.afterName ++ value layout item ++ layout.betweenItems ++
        members layout (next :: rest)

end

end Writer

/-- A JSON value as text. -/
def write (layout : Layout) (json : Json) : String :=
  String.ofList (Writer.value layout json)

end AccessGate.Json
