import AccessGate.Collection.Table
import AccessGate.Text.Blank

/-!
# Environment files

An environment file assigns texts to names, one assignment after the other.  A value is written
bare, up to the end of the line or a comment, or between quotes, where it may hold line ends and
escapes.  A line that fits no assignment is skipped.  Values refer to variables as `$\x7bNAME\x7d`
or, with a default, as `$\x7bNAME:-DEFAULT\x7d`.
-/

namespace AccessGate.Dotenv

/-- Line ends in a uniform spelling. -/
def unifyLines : List Char → List Char
  | '\r' :: '\n' :: rest => '\n' :: unifyLines rest
  | '\r' :: rest => '\n' :: unifyLines rest
  | character :: rest => character :: unifyLines rest
  | [] => []

def isInlineBlank (character : Char) : Bool :=
  Text.isBlank character && character ≠ '\n'

/-- Drops the blanks up to the end of the line. -/
def dropInline (characters : List Char) : List Char :=
  characters.dropWhile isInlineBlank

/-- Drops the word that marks a name for export. -/
def dropExport (characters : List Char) : List Char :=
  let word := "export".toList
  if word.isPrefixOf characters then
    let rest := characters.drop word.length
    if (rest.head?.map isInlineBlank).getD false then dropInline rest else characters
  else characters

/-- Reads a name, bare or between single quotes. -/
def name? (characters : List Char) : Option (String × List Char) :=
  let (name, rest) := match characters with
    | '\'' :: rest =>
        let name := rest.takeWhile (· ≠ '\'')
        (name, if name.length < rest.length then rest.drop (name.length + 1) else [])
    | _ =>
        let name := characters.takeWhile fun character =>
          character ≠ '=' && character ≠ '#' && !Text.isBlank character
        (name, characters.drop name.length)
  let closed := characters.head? ≠ some '\'' || (characters.drop 1).contains '\''
  if name.isEmpty || !closed then none else some (String.ofList name, rest)

/-- Reads up to the closing quote.  The character behind a backslash is none. -/
def quoted? (quote : Char) : List Char → Option (List Char × List Char)
  | [] | ['\\'] => none
  | '\\' :: next :: rest =>
      (quoted? quote rest).map fun (found, rest) => ('\\' :: next :: found, rest)
  | character :: rest =>
      if character = quote then some ([], rest)
      else (quoted? quote rest).map fun (found, rest) => (character :: found, rest)

/-- The character that an escape between quotes stands for. -/
def escape? (quote character : Char) : Option Char :=
  if character = '\\' || character = '\'' then some character
  else if quote = '\'' then none
  else match character with
    | '"' => some '"'
    | 'a' => some '\x07'
    | 'b' => some '\x08'
    | 'f' => some '\x0c'
    | 'n' => some '\n'
    | 'r' => some '\r'
    | 't' => some '\t'
    | 'v' => some '\x0b'
    | _ => none

/-- Replaces the escapes between quotes. -/
def unescape (quote : Char) : List Char → List Char
  | '\\' :: next :: rest =>
      match escape? quote next with
      | some character => character :: unescape quote rest
      | none => '\\' :: unescape quote (next :: rest)
  | character :: rest => character :: unescape quote rest
  | [] => []

/-- A bare value without its comment: what starts with a hash behind a blank. -/
def dropComment (afterBlank : Bool) : List Char → List Char
  | [] => []
  | character :: rest =>
      if character = '#' && afterBlank then []
      else character :: dropComment (Text.isBlank character) rest

/-- A list of characters without its trailing blanks. -/
def dropTrailing (characters : List Char) : List Char :=
  (Text.dropBlank characters.reverse).reverse

/-- Reads a value, which may stand behind a blank. -/
def value? (afterBlank : Bool) (characters : List Char) : Option (List Char × List Char) :=
  match characters with
  | quote :: rest =>
      if quote = '\'' || quote = '"' then
        (quoted? quote rest).map fun (found, rest) => (unescape quote found, rest)
      else
        let line := characters.takeWhile (· ≠ '\n')
        some (dropTrailing (dropComment afterBlank line), characters.drop line.length)
  | [] => some ([], [])

/-- Drops a comment and the end of the line; nothing else may be left on it. -/
def lineEnd? (characters : List Char) : Option (List Char) :=
  let rest := dropInline characters
  let rest := if rest.head? = some '#' then rest.dropWhile (· ≠ '\n') else rest
  match rest with
  | [] => some []
  | '\n' :: rest => some rest
  | _ => none

/-- What a line holds: a name with or without a value, or nothing. -/
abbrev Binding := Option (String × Option String)

/-- Reads a binding.  Where it is malformed, tells the place at which that showed. -/
def binding (characters : List Char) : Except (List Char) (Binding × List Char) := do
  let start := dropExport characters
  if start.head? = some '#' then return (none, ← orElse start (lineEnd? start))
  let (name, rest) ← orElse start (name? start)
  let rest := dropInline rest
  if rest.head? = some '=' then
    let afterBlank := (rest.drop 1).head?.any isInlineBlank
    let rest := dropInline (rest.drop 1)
    let (value, rest) ← orElse rest (value? afterBlank rest)
    return (some (name, some (String.ofList value)), ← orElse rest (lineEnd? rest))
  else return (some (name, none), ← orElse rest (lineEnd? rest))
where
  /-- A result, or the place where there is none. -/
  orElse {α : Type} (place : List Char) (result : Option α) : Except (List Char) α :=
    match result with
    | some found => .ok found
    | none => .error place

/-- Reads at most the given number of bindings. -/
def bindings : (bound : Nat) → List Char → List (String × Option String)
  | 0, _ => []
  | bound + 1, characters =>
      let start := Text.dropBlank characters
      if start.isEmpty then []
      else
        match binding start with
        | .ok (found, rest) => found.toList ++ bindings bound rest
        | .error rest => bindings bound ((rest.dropWhile (· ≠ '\n')).drop 1)

/-- Reads a reference behind its opening brace: its name, its default and what follows. -/
def reference? (characters : List Char) : Option (String × String × List Char) :=
  let name := characters.takeWhile fun character => character ≠ '\x7d' && character ≠ ':'
  match characters.drop name.length with
  | '\x7d' :: rest => some (String.ofList name, "", rest)
  | ':' :: '-' :: rest =>
      let default := rest.takeWhile (· ≠ '\x7d')
      match rest.drop default.length with
      | _ :: rest => some (String.ofList name, String.ofList default, rest)
      | [] => none
  | _ => none

/-- Replaces the variables in a value. -/
def expand (lookUp : String → Option (Option String)) : (bound : Nat) → List Char → List Char
  | 0, characters => characters
  | _ + 1, [] => []
  | bound + 1, character :: rest =>
      match character, rest with
      | '$', '\x7b' :: inner =>
          match reference? inner with
          | some (name, default, rest) =>
              (((lookUp name).getD (some default)).getD "").toList ++ expand lookUp bound rest
          | none => character :: expand lookUp bound rest
      | _, _ => character :: expand lookUp bound rest

/-- The value of a binding, in which variables stand for earlier values of the file, or else of
the environment. -/
def resolve (environment : List (String × String)) (known : Table String (Option String))
    (value : String) : String :=
  let lookUp (name : String) : Option (Option String) :=
    match known.get? name with
    | some value => some value
    | none => (Table.lookup name environment).map some
  String.ofList (expand lookUp (value.length + 1) value.toList)

/-- Reads an environment file.  A name may be there without a value. -/
def read (environment : List (String × String)) (text : String) : Table String (Option String) :=
  let characters := unifyLines text.toList
  (bindings (characters.length + 1) characters).foldl
    (fun known (name, value) => known.put name (value.map (resolve environment known)))
    .empty

end AccessGate.Dotenv
