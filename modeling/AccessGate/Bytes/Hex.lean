import AccessGate.Bytes.Words
import AccessGate.Text.Hexadecimal

/-!
# Hexadecimal text

A byte is written as two lower-case hexadecimal digits and read from two digits of either case.
-/

namespace AccessGate.Bytes

/-- The hexadecimal text of a byte string. -/
def toHex (bytes : Bytes) : String :=
  String.ofList (bytes.flatMap fun byte => Text.hexDigits 2 byte.toNat)

/-- The bytes written by pairs of hexadecimal digits. -/
def ofHexCharacters? : List Char → Option Bytes
  | [] => some []
  | [_] => none
  | high :: low :: rest =>
      match Text.hexValue? high, Text.hexValue? low, ofHexCharacters? rest with
      | some high, some low, some bytes => some (UInt8.ofNat (high * 16 + low) :: bytes)
      | _, _, _ => none

/-- The bytes written by a hexadecimal text. -/
def ofHex? (text : String) : Option Bytes :=
  ofHexCharacters? text.toList

end AccessGate.Bytes
