import AccessGate.Bytes.Words

/-!
# Base64

Three bytes are written as four sextets, each by one character of an alphabet; one or two left-over
bytes take two or three characters.  The two alphabets differ in the characters of the last two
sextets.  Padding fills the text up to a multiple of four characters.

There are two readers.  `readCanonical?` accepts exactly what the writer produces, with or without
padding.  `readLenient` passes over characters outside the alphabet and ignores surplus bits; it
fails when the sextets stop in the middle of a group that padding does not complete.
-/

namespace AccessGate.Base64

/-- The characters of the last two sextets. -/
structure Alphabet where
  sextet62 : Char
  sextet63 : Char

/-- The alphabet of stored hashes and key files. -/
def standard : Alphabet := ⟨'+', '/'⟩

def addressSafe : Alphabet := ⟨'-', '_'⟩

namespace Alphabet

def character (alphabet : Alphabet) (sextet : Nat) : Char :=
  if sextet < 26 then Char.ofNat (65 + sextet)
  else if sextet < 52 then Char.ofNat (71 + sextet)
  else if sextet < 62 then Char.ofNat (sextet - 4)
  else if sextet = 62 then alphabet.sextet62
  else alphabet.sextet63

def sextet? (alphabet : Alphabet) (character : Char) : Option Nat :=
  if 'A' ≤ character ∧ character ≤ 'Z' then some (character.toNat - 65)
  else if 'a' ≤ character ∧ character ≤ 'z' then some (character.toNat - 71)
  else if '0' ≤ character ∧ character ≤ '9' then some (character.toNat + 4)
  else if character = alphabet.sextet62 then some 62
  else if character = alphabet.sextet63 then some 63
  else none

def contains (alphabet : Alphabet) (character : Char) : Bool :=
  (alphabet.sextet? character).isSome

end Alphabet

/-- The sextets of a byte string. -/
def sextets : Bytes → List Nat
  | [] => []
  | [a] => [a.toNat / 4, a.toNat % 4 * 16]
  | [a, b] => [a.toNat / 4, a.toNat % 4 * 16 + b.toNat / 16, b.toNat % 16 * 4]
  | a :: b :: c :: rest =>
      a.toNat / 4 :: (a.toNat % 4 * 16 + b.toNat / 16) :: (b.toNat % 16 * 4 + c.toNat / 64) ::
        c.toNat % 64 :: sextets rest

/-- The bytes of sextets.  Bits that do not fill a byte are dropped. -/
def ofSextets : List Nat → Bytes
  | [] => []
  | [_] => []
  | [a, b] => [UInt8.ofNat (a * 4 + b / 16)]
  | [a, b, c] => [UInt8.ofNat (a * 4 + b / 16), UInt8.ofNat (b % 16 * 16 + c / 4)]
  | a :: b :: c :: d :: rest =>
      UInt8.ofNat (a * 4 + b / 16) :: UInt8.ofNat (b % 16 * 16 + c / 4) ::
        UInt8.ofNat (c % 4 * 64 + d) :: ofSextets rest

/-- A byte string without padding. -/
def characters (alphabet : Alphabet) (bytes : Bytes) : List Char :=
  (sextets bytes).map alphabet.character

/-- The padding that completes a number of characters to a multiple of four. -/
def paddingFor (count : Nat) : List Char :=
  List.replicate ((4 - count % 4) % 4) '='

/-- A byte string with padding. -/
def paddedCharacters (alphabet : Alphabet) (bytes : Bytes) : List Char :=
  characters alphabet bytes ++ paddingFor (characters alphabet bytes).length

/-- A byte string as text without padding. -/
def write (alphabet : Alphabet) (bytes : Bytes) : String :=
  String.ofList (characters alphabet bytes)

/-- A byte string as text with padding. -/
def writePadded (alphabet : Alphabet) (bytes : Bytes) : String :=
  String.ofList (paddedCharacters alphabet bytes)

/-- Reads exactly what the writer produces, with or without padding. -/
def readCanonical? (alphabet : Alphabet) (text : List Char) : Option Bytes :=
  let body := text.takeWhile alphabet.contains
  let padding := text.drop body.length
  match body.mapM alphabet.sextet? with
  | some sextets =>
      let bytes := ofSextets sextets
      if characters alphabet bytes = body &&
          (padding.isEmpty || padding = paddingFor body.length) then
        some bytes
      else none
  | none => none

/-- Gathers sextets for `readLenient`: `count` sextets came before, and `pads` padding characters
since the last of them. -/
def gather (alphabet : Alphabet) (count pads : Nat) : List Char → Option (List Nat)
  | [] => if count % 4 = 0 then some [] else none
  | character :: rest =>
      if character = '=' then
        if count % 4 < 2 then gather alphabet count pads rest
        else if count % 4 + pads + 1 < 4 then gather alphabet count (pads + 1) rest
        else some []
      else
        match alphabet.sextet? character with
        | some sextet => (gather alphabet (count + 1) 0 rest).map (sextet :: ·)
        | none => gather alphabet count pads rest

/-- Reads the alphabet's characters of a text and passes over all others; fails if the text ends
inside a group of four. -/
def readLenient? (alphabet : Alphabet) (text : List Char) : Option Bytes :=
  (gather alphabet 0 0 text).map ofSextets

end AccessGate.Base64
