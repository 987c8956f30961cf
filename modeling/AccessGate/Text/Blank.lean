import AccessGate.Text.CharRanges

/-!
# Blank characters

Blank characters separate values without belonging to them: the ASCII white space, the four
information separators `U+001C` to `U+001F`, and the Unicode spaces and line ends.  The zero-width
space `U+200B` and the byte order mark `U+FEFF` are not blank.
-/

namespace AccessGate.Text

def blankCharacters : CharRanges where
  ranges := [(9, 13), (28, 32), (133, 133), (160, 160), (5760, 5760), (8192, 8202), (8232, 8233),
    (8239, 8239), (8287, 8287), (12288, 12288)]

def isBlank (character : Char) : Bool :=
  blankCharacters.contains character

/-- Whether a character is a space or a line end: a blank, but no information separator. -/
def isSpace (character : Char) : Bool :=
  isBlank character && !(0x1c ≤ character.toNat && character.toNat ≤ 0x1f)

/-- A list of characters without the spaces and line ends around it. -/
def trimSpaces (characters : List Char) : List Char :=
  ((characters.dropWhile isSpace).reverse.dropWhile isSpace).reverse

/-- A list of characters without its leading blanks. -/
def dropBlank (characters : List Char) : List Char :=
  characters.dropWhile isBlank

/-- A list of characters without its leading and trailing blanks. -/
def trimCharacters (characters : List Char) : List Char :=
  (dropBlank (dropBlank characters).reverse).reverse

/-- A text without its leading and trailing blanks. -/
def trim (text : String) : String :=
  String.ofList (trimCharacters text.toList)

/-- Whether a text is empty or made of blanks only. -/
def isBlankText (text : String) : Bool :=
  text.toList.all isBlank

end AccessGate.Text
