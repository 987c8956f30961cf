import AccessGate.Text.LetterCase

/-!
# Lower-casing

Lower-casing acts on each character alone, with two exceptions.  The capital dotted I becomes a
small `i` followed by a combining dot.  The capital sigma has two small forms: the final form is
used where a letter precedes it and none follows, counting neighbours across skipped characters.
-/

namespace AccessGate.Text

/-- Whether the first character that is not skipped is a cased letter. -/
def startsWithLetter : List Char → Bool
  | [] => false
  | character :: rest =>
      if skippedCharacters.contains character then startsWithLetter rest
      else casedCharacters.contains character

/-- The lower-case form of a character that does not depend on its neighbours. -/
def lowerCharacter (character : Char) : List Char :=
  if character = 'İ' then ['i', '\u0307'] else [smallLetter character]

/-- Lower-cases a list of characters, given what precedes it in reverse order. -/
def lowerAfter (before : List Char) : List Char → List Char
  | [] => []
  | character :: after =>
      (if character = 'Σ' then
        if startsWithLetter before && !startsWithLetter after then ['ς'] else ['σ']
      else
        lowerCharacter character) ++ lowerAfter (character :: before) after

/-- The lower-case form of a list of characters. -/
def lowerCharacters (characters : List Char) : List Char :=
  lowerAfter [] characters

/-- The lower-case form of a text. -/
def lower (text : String) : String :=
  String.ofList (lowerCharacters text.toList)

end AccessGate.Text
