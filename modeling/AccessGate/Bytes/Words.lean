/-!
# Bytes and words

Byte strings are lists of bytes.  Words are read and written with the least or with the most
significant byte first.
-/

namespace AccessGate

/-- A byte string. -/
abbrev Bytes := List UInt8

namespace Bytes

/-- The UTF-8 encoding of a text. -/
def ofText (text : String) : Bytes :=
  text.toUTF8.toList

/-- The lowest bytes of a number, least significant first. -/
def littleEndian : (width : Nat) → (value : Nat) → Bytes
  | 0, _ => []
  | width + 1, value => UInt8.ofNat value :: littleEndian width (value / 256)

/-- The lowest bytes of a number, most significant first. -/
def bigEndian (width value : Nat) : Bytes :=
  (littleEndian width value).reverse

/-- The number whose bytes are given most significant first. -/
def toNat (bytes : Bytes) : Nat :=
  bytes.foldl (fun value byte => value * 256 + byte.toNat) 0

/-- The number of bytes that a number takes without leading zeros; zero takes one. -/
def width (value : Nat) : Nat :=
  if value = 0 then 1 else value.log2 / 8 + 1

/-- The bytes of a number, most significant first and without leading zeros; zero takes one. -/
def ofNat (value : Nat) : Bytes :=
  bigEndian (width value) value

/-- The word of eight bytes, least significant first. -/
def word64 (bytes : Bytes) : UInt64 :=
  bytes.foldr (fun byte word => word <<< 8 ||| byte.toUInt64) 0

/-- The bytes of a word, least significant first. -/
def ofWord64 (word : UInt64) : Bytes :=
  littleEndian 8 word.toNat

/-- The word of four bytes, most significant first. -/
def word32 (bytes : Bytes) : UInt32 :=
  bytes.foldl (fun word byte => word <<< 8 ||| byte.toUInt32) 0

/-- Cuts a byte string into pieces of a positive width; the last piece may be shorter. -/
def pieces (width : Nat) (bytes : Bytes) : List Bytes :=
  cut bytes.length bytes
where
  /-- Cuts off at most the given number of pieces. -/
  cut : (bound : Nat) → Bytes → List Bytes
    | 0, _ => []
    | bound + 1, bytes =>
        if bytes.isEmpty then [] else bytes.take width :: cut bound (bytes.drop width)

end Bytes

end AccessGate
