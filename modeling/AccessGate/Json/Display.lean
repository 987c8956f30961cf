import AccessGate.Json.Writer

/-!
# Showing JSON values to people

A text shows as itself when it stands alone, and quoted inside a list or an object.  Words start
with a capital letter, and null shows as `None`.
-/

namespace AccessGate.Json

namespace Display

mutual

/-- A value inside another one. -/
def nested : Json → List Char
  | .null => "None".toList
  | .bool true => "True".toList
  | .bool false => "False".toList
  | .int value => Writer.int value
  | .float value => value.render.toList
  | .text value => (Text.quoted value).toList
  | .list found => '[' :: items found
  | .object fields => '\x7b' :: members fields

/-- The items of a list and its closing bracket. -/
def items : List Json → List Char
  | [] => [']']
  | [last] => nested last ++ [']']
  | item :: next :: rest => nested item ++ [',', ' '] ++ items (next :: rest)

/-- The fields of an object and its closing brace. -/
def members : List (String × Json) → List Char
  | [] => ['\x7d']
  | [(name, last)] => (Text.quoted name).toList ++ [':', ' '] ++ nested last ++ ['\x7d']
  | (name, item) :: next :: rest =>
      (Text.quoted name).toList ++ [':', ' '] ++ nested item ++ [',', ' '] ++
        members (next :: rest)

end

end Display

/-- A JSON value as shown to people inside another one. -/
def displayInside (json : Json) : String :=
  String.ofList (Display.nested json)

/-- A JSON value as shown to people. -/
def display : Json → String
  | .text value => value
  | json => json.displayInside

end AccessGate.Json
