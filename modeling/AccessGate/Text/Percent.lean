import AccessGate.Bytes.Lenient
import AccessGate.Text.Hexadecimal

/-!
# Percent escapes

An escape is a percent sign with two hexadecimal digits, and stands for a byte.  The bytes of a run
of ASCII characters together spell characters in UTF-8.
-/

namespace AccessGate.Text

def isAscii (character : Char) : Bool :=
  character.toNat < 0x80

/-- The bytes of ASCII characters.  A percent sign that begins no escape stands for itself. -/
def escapedBytes : List Char → Bytes
  | '%' :: high :: low :: rest =>
      match hexValue? high, hexValue? low with
      | some high, some low => UInt8.ofNat (high * 16 + low) :: escapedBytes rest
      | _, _ => UInt8.ofNat '%'.toNat :: escapedBytes (high :: low :: rest)
  | character :: rest => UInt8.ofNat character.toNat :: escapedBytes rest
  | [] => []
  termination_by characters => characters.length

/-- The characters that escaped ones stand for. -/
def unescaped (characters : List Char) : List Char :=
  (characters.splitBy fun first second => isAscii first == isAscii second).flatMap fun run =>
    if run.all isAscii then Bytes.lenient (escapedBytes run) else run

def escapeByte (byte : UInt8) : List Char :=
  '%' :: (hexDigits 2 byte.toNat).map Char.toUpper

/-- Escapes the characters that are not to be kept. -/
def escaped (keeps : Char → Bool) (characters : List Char) : List Char :=
  characters.flatMap fun character =>
    if keeps character then [character]
    else (Bytes.ofText (String.singleton character)).flatMap escapeByte

end AccessGate.Text
