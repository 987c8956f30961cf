import AccessGate.Bytes.Base64
import AccessGate.Text.Blank
import AccessGate.Text.Split

/-!
# Armored blocks

A key is stored as base64 text between two boundary lines that name its kind.  Text around the
boundaries is ignored.  Lines with a name, a colon and a value may come first, up to an empty line.
-/

namespace AccessGate.Pem

/-- An armored block. -/
structure Block where
  kind : String
  headers : List (String × String)
  content : Bytes
  deriving DecidableEq, Repr

/-- Cuts a text behind the first place at which a mark is complete, of which some characters are
still expected.  A character that does not continue the mark takes it back to its start. -/
def through? (mark : List Char) : (expected text : List Char) → Option (List Char × List Char)
  | [], text => some ([], text)
  | _ :: _, [] => none
  | next :: later, character :: rest =>
      (through? mark (if character = next then later else mark) rest).map fun (before, after) =>
        (character :: before, after)

def cut? (mark text : List Char) : Option (List Char × List Char) :=
  (through? mark mark text).map fun (before, after) =>
    (before.take (before.length - mark.length), after)

/-- Whether a character may stand behind a boundary. -/
def isGap (character : Char) : Bool :=
  character = ' ' || character = '\t' || character = '\n' || character = '\r'

/-- The lines of a text, without their ends. -/
def lines (text : List Char) : List (List Char) :=
  let parts := Text.splitAt '\n' text
  let parts := if parts.getLast? = some [] then parts.dropLast else parts
  parts.map fun line => if line.getLast? = some '\r' then line.dropLast else line

/-- The name and the value of a line. -/
def header? (line : List Char) : Option (String × String) :=
  let name := line.takeWhile (· ≠ ':')
  match line.drop name.length with
  | _ :: value =>
      some (String.ofList (Text.trimSpaces name), String.ofList (Text.trimSpaces value))
  | [] => none

/-- The lines that come first, and the armored text. -/
def parts (body : List Char) : List Char × List Char :=
  ((cut? ['\n', '\n'] body).or (cut? ['\r', '\n', '\r', '\n'] body)).getD ([], body)

/-- A block whose boundaries have the given kinds. -/
def block? (opening closing body : List Char) : Option Block := do
  let (head, armored) := parts body
  let headers ← (lines head).mapM header?
  let base64 := armored.filter fun character => !Text.isSpace character
  if opening.isEmpty || opening ≠ closing || base64.length % 4 ≠ 0 then none
  return { kind := String.ofList opening, headers,
           content := ← Base64.readCanonical? Base64.standard base64 }

/-- Cuts off the first pair of boundaries: their kinds, the body between them, and the rest. -/
def boundaries? (text : List Char) : Option (List Char × List Char × List Char × List Char) := do
  let (_, rest) ← cut? "-----BEGIN ".toList text
  let (opening, rest) ← cut? "-----".toList rest
  let (body, rest) ← cut? "-----END ".toList (rest.dropWhile isGap)
  let (closing, rest) ← cut? "-----".toList rest
  return (opening, closing, body, rest)

def first? (text : String) : Option Block := do
  let (opening, closing, body, _) ← boundaries? text.toList
  block? opening closing body

/-- At most the given number of blocks, of which none may be malformed. -/
def blocks? : (bound : Nat) → List Char → Option (List Block)
  | 0, _ => some []
  | bound + 1, text =>
      match boundaries? text with
      | none => some []
      | some (opening, closing, body, rest) => do
          return (← block? opening closing body) :: (← blocks? bound rest)

def all? (text : String) : Option (List Block) :=
  blocks? text.length text.toList

/-- The value of the last header with a name. -/
def Block.header? (block : Block) (name : String) : Option String :=
  (block.headers.reverse.find? fun header => header.1 = name).map Prod.snd

end AccessGate.Pem
