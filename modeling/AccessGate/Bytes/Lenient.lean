import AccessGate.Bytes.Words

/-!
# Lenient UTF-8

Bytes are read as UTF-8, and whatever is not UTF-8 is replaced.  Every longest run of bytes that
begins like a character but does not end like one is replaced by one replacement character, and so
is every byte that cannot begin a character.
-/

namespace AccessGate.Bytes

/-- The beginning of a character. -/
structure CharacterStart where
  /-- The number of bytes that are missing. -/
  missing : Nat
  /-- The code so far. -/
  code : Nat
  /-- The least value of the next byte. -/
  least : Nat := 0x80
  /-- The greatest value of the next byte. -/
  greatest : Nat := 0xbf
  deriving DecidableEq, Repr

/-- Stands for bytes that are not UTF-8. -/
def replacement : Char := '\ufffd'

/-- Reads the first byte of a character: what it stands for by itself, or the character it
begins.  The second byte is limited so that no character has two encodings, and so that halves of
surrogate pairs and codes beyond the last character have none. -/
def beginCharacter (byte : Nat) : List Char × Option CharacterStart :=
  if byte < 0x80 then ([Char.ofNat byte], none)
  else if byte < 0xc2 then ([replacement], none)
  else if byte < 0xe0 then ([], some { missing := 1, code := byte - 0xc0 })
  else if byte = 0xe0 then ([], some { missing := 2, code := 0, least := 0xa0 })
  else if byte = 0xed then ([], some { missing := 2, code := 0xd, greatest := 0x9f })
  else if byte < 0xf0 then ([], some { missing := 2, code := byte - 0xe0 })
  else if byte = 0xf0 then ([], some { missing := 3, code := 0, least := 0x90 })
  else if byte < 0xf4 then ([], some { missing := 3, code := byte - 0xf0 })
  else if byte = 0xf4 then ([], some { missing := 3, code := 4, greatest := 0x8f })
  else ([replacement], none)

/-- Reads one byte more. -/
def readByte (start : Option CharacterStart) (byte : Nat) : List Char × Option CharacterStart :=
  match start with
  | none => beginCharacter byte
  | some start =>
      if start.least ≤ byte && byte ≤ start.greatest then
        let code := start.code * 64 + byte % 64
        if start.missing ≤ 1 then ([Char.ofNat code], none)
        else ([], some { missing := start.missing - 1, code })
      else
        let (characters, next) := beginCharacter byte
        (replacement :: characters, next)

/-- The characters of bytes that follow the beginning of a character, if there is one. -/
def lenientFrom (start : Option CharacterStart) : Bytes → List Char
  | [] => if start.isSome then [replacement] else []
  | byte :: bytes =>
      let (characters, next) := readByte start byte.toNat
      characters ++ lenientFrom next bytes

def lenient (bytes : Bytes) : List Char :=
  lenientFrom none bytes

end AccessGate.Bytes
