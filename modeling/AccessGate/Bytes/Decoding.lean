import AccessGate.Bytes.Words

/-!
# Text from bytes

Bytes are read as UTF-8, UTF-16 or UTF-32.  A byte order mark settles the encoding and does not
belong to the text; without one, the zeros among the first four bytes tell it, on the grounds that
the text starts with ASCII characters.  Half a surrogate pair that stands alone, or that is encoded
like a character, is read as the replacement character.
-/

namespace AccessGate.Bytes

/-- The encodings of text; a flag tells whether the most significant byte comes first. -/
inductive Encoding where
  | utf8
  | utf16 (bigEndian : Bool)
  | utf32 (bigEndian : Bool)
  deriving DecidableEq, Repr

/-- The byte order marks, longer ones first. -/
def marks : List (Bytes × Encoding) :=
  [([0x00, 0x00, 0xfe, 0xff], .utf32 true), ([0xff, 0xfe, 0x00, 0x00], .utf32 false),
    ([0xef, 0xbb, 0xbf], .utf8), ([0xfe, 0xff], .utf16 true), ([0xff, 0xfe], .utf16 false)]

/-- The encoding of bytes without a byte order mark. -/
def unmarked : Bytes → Encoding
  | a :: b :: c :: d :: _ =>
      if a = 0 then if b = 0 then .utf32 true else .utf16 true
      else if b = 0 then if c = 0 && d = 0 then .utf32 false else .utf16 false
      else .utf8
  | [a, b] => if a = 0 then .utf16 true else if b = 0 then .utf16 false else .utf8
  | _ => .utf8

/-- The encoding of bytes, and the length of their byte order mark. -/
def encodingOf (bytes : Bytes) : Encoding × Nat :=
  match marks.find? fun (mark, _) => mark.isPrefixOf bytes with
  | some (mark, encoding) => (encoding, mark.length)
  | none => (unmarked bytes, 0)

/-- The code units of a width, if the bytes form whole ones. -/
def units? (width : Nat) (bigEndian : Bool) (bytes : Bytes) : Option (List Nat) :=
  if bytes.length % width = 0 then
    some ((pieces width bytes).map fun piece => toNat (if bigEndian then piece else piece.reverse))
  else none

/-- Whether a code is half a surrogate pair. -/
def isHalf (code : Nat) : Bool :=
  0xd800 ≤ code && code < 0xe000

def character? (code : Nat) : Option Char :=
  if isHalf code then some '\ufffd'
  else if code.isValidChar then some (Char.ofNat code)
  else none

/-- The beginning of a character in UTF-8: what its first byte adds to its code, the number of
bytes that follow, and the least code that is written with so many. -/
def lead? (byte : Nat) : Option (Nat × Nat × Nat) :=
  if byte < 0x80 then some (byte, 0, 0)
  else if byte < 0xc0 then none
  else if byte < 0xe0 then some (byte - 0xc0, 1, 0x80)
  else if byte < 0xf0 then some (byte - 0xe0, 2, 0x800)
  else if byte < 0xf8 then some (byte - 0xf0, 3, 0x10000)
  else none

/-- Reads the bytes that complete a code, and what follows them. -/
def code? : (count code : Nat) → Bytes → Option (Nat × Bytes)
  | 0, code, rest => some (code, rest)
  | _ + 1, _, [] => none
  | count + 1, code, byte :: rest =>
      if 0x80 ≤ byte && byte < 0xc0 then code? count (code * 64 + (byte.toNat - 0x80)) rest
      else none

/-- Reads at most the given number of characters in UTF-8. -/
def ofUtf8? : (bound : Nat) → Bytes → Option (List Char)
  | _, [] => some []
  | 0, _ :: _ => none
  | bound + 1, first :: rest => do
      let (start, count, least) ← lead? first.toNat
      let (code, rest) ← code? count start rest
      if code < least then none else return (← character? code) :: (← ofUtf8? bound rest)

/-- The characters of code units of 16 bits. -/
def ofUnits16? : List Nat → Option (List Char)
  | [] => some []
  | high :: low :: rest =>
      if 0xd800 ≤ high && high < 0xdc00 && 0xdc00 ≤ low && low < 0xe000 then do
        let first ← character? (0x10000 + (high - 0xd800) * 0x400 + (low - 0xdc00))
        return first :: (← ofUnits16? rest)
      else do return (← character? high) :: (← ofUnits16? (low :: rest))
  | [unit] => (character? unit).map fun first => [first]

def text? (bytes : Bytes) : Option String :=
  let (encoding, mark) := encodingOf bytes
  let rest := bytes.drop mark
  match encoding with
  | .utf8 => (ofUtf8? rest.length rest).map String.ofList
  | .utf16 bigEndian => ((units? 2 bigEndian rest).bind ofUnits16?).map String.ofList
  | .utf32 bigEndian =>
      ((units? 4 bigEndian rest).bind fun units => units.mapM character?).map String.ofList

end AccessGate.Bytes
