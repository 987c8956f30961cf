/-!
# Cutting texts
-/

namespace AccessGate.Text

def splitAt (separator : Char) : List Char → List (List Char)
  | [] => [[]]
  | character :: rest =>
      if character = separator then [] :: splitAt separator rest
      else
        match splitAt separator rest with
        | [] => [[character]]
        | part :: parts => (character :: part) :: parts

def occursIn (part : List Char) : List Char → Bool
  | [] => part.isEmpty
  | character :: rest => part.isPrefixOf (character :: rest) || occursIn part rest

end AccessGate.Text
