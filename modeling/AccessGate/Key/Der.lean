import AccessGate.Bytes.Words

/-!
# Distinguished encoding

An element is a tag byte, a length and a content of that length.  Lengths and integers are written
in the shortest form.  The content of a sequence is its elements one after the other.
-/

namespace AccessGate.Der

structure Element where
  tag : UInt8
  content : Bytes
  deriving DecidableEq, Repr

def integerTag : UInt8 := 0x02

def bitsTag : UInt8 := 0x03

/-- The tag of a byte string. -/
def bytesTag : UInt8 := 0x04

/-- The tag of an empty value. -/
def nullTag : UInt8 := 0x05

def nameTag : UInt8 := 0x06

def sequenceTag : UInt8 := 0x30

/-- Reads a length: one byte below 128, or the number of further bytes. -/
def length? : Bytes → Option (Nat × Bytes)
  | [] => none
  | first :: rest =>
      if first < 0x80 then some (first.toNat, rest)
      else
        let count := first.toNat - 0x80
        let digits := rest.take count
        let value := Bytes.toNat digits
        if digits.length = count && digits.head? ≠ some 0 && 0x80 ≤ value then
          some (value, rest.drop count)
        else none

def element? : Bytes → Option (Element × Bytes)
  | [] => none
  | tag :: rest => do
      let (length, rest) ← length? rest
      if length ≤ rest.length then some (⟨tag, rest.take length⟩, rest.drop length) else none

/-- Reads at most the given number of elements, up to the end. -/
def elements? : (bound : Nat) → Bytes → Option (List Element)
  | _, [] => some []
  | 0, _ :: _ => none
  | bound + 1, bytes => do
      let (element, rest) ← element? bytes
      return element :: (← elements? bound rest)

def Element.parts? (element : Element) : Option (List Element) :=
  if element.tag = sequenceTag then elements? element.content.length element.content else none

/-- The element that is all there is. -/
def single? (bytes : Bytes) : Option Element :=
  match element? bytes with
  | some (element, []) => some element
  | _ => none

/-- The elements of a sequence that is all there is. -/
def sequence? (bytes : Bytes) : Option (List Element) :=
  (single? bytes).bind Element.parts?

/-- The number of an integer that is not negative. -/
def Element.natural? (element : Element) : Option Nat :=
  let isShortest := match element.content with
    | [] => false
    | [first] => first < 0x80
    | first :: second :: _ => first < 0x80 && (first ≠ 0 || 0x80 ≤ second)
  if element.tag = integerTag && isShortest then some (Bytes.toNat element.content) else none

/-- Whether an element is the empty value. -/
def Element.isNull (element : Element) : Bool :=
  element.tag = nullTag && element.content.isEmpty

/-- Whether bytes spell a registered name: numbers in the shortest form, in which all bytes but the
last of each have the highest bit. -/
def isName (content : Bytes) : Bool :=
  go true content
where
  /-- Goes on, at the start of a number or within it. -/
  go (isStart : Bool) : Bytes → Bool
    | [] => false
    | [last] => last < 0x80
    | byte :: next :: rest => !(isStart && byte = 0x80) && go (byte < 0x80) (next :: rest)

/-- The bytes of a registered name. -/
def Element.name? (element : Element) : Option Bytes :=
  if element.tag = nameTag && element.content.length < 64 && isName element.content then
    some element.content
  else none

/-- The bytes of a byte string. -/
def Element.bytes? (element : Element) : Option Bytes :=
  if element.tag = bytesTag then some element.content else none

/-- The bytes of a bit string, of which the last may have unused bits. -/
def Element.bits? (element : Element) : Option Bytes :=
  match element.content with
  | unused :: bytes =>
      let fits := match bytes.getLast? with
        | none => unused = 0
        | some last => unused < 8 && last.toNat % Nat.pow 2 unused.toNat = 0
      if element.tag = bitsTag && fits then some bytes else none
  | [] => none

end AccessGate.Der
