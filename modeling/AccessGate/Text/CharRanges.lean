/-!
# Ranges of characters

A character class is listed as closed ranges of code points, in increasing order.
-/

namespace AccessGate.Text

/-- A class of characters, given by the first and last code point of each of its ranges. -/
structure CharRanges where
  ranges : List (Nat × Nat)

namespace CharRanges

def contains (characters : CharRanges) (character : Char) : Bool :=
  characters.ranges.any fun (first, last) => first ≤ character.toNat && character.toNat ≤ last

end CharRanges

end AccessGate.Text
