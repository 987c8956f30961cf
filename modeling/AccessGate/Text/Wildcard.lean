/-!
# Wildcard patterns

In a pattern the star stands for any run of characters, also the empty one; every other character
stands for itself.
-/

namespace AccessGate.Text

/-- What is left of a list after dropping any number of its first members. -/
def suffixes {α : Type} : List α → List (List α)
  | [] => [[]]
  | head :: tail => (head :: tail) :: suffixes tail

def fitsCharacters : (pattern characters : List Char) → Bool
  | [], characters => characters.isEmpty
  | '*' :: pattern, characters => (suffixes characters).any (fitsCharacters pattern)
  | _ :: _, [] => false
  | expected :: pattern, character :: characters =>
      expected = character && fitsCharacters pattern characters

def fits (pattern text : String) : Bool :=
  fitsCharacters pattern.toList text.toList

end AccessGate.Text
