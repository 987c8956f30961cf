import AccessGate.Bytes.Words
import AccessGate.Digest.Words16

/-!
# BLAKE2b

The keyless BLAKE2b digest of one to sixty-four bytes.
-/

namespace AccessGate.Digest.Blake2b

def initialWords : List UInt64 :=
  [0x6a09e667f3bcc908, 0xbb67ae8584caa73b, 0x3c6ef372fe94f82b, 0xa54ff53a5f1d36f1,
    0x510e527fade682d1, 0x9b05688c2b3e6c1f, 0x1f83d9abfb41bd6b, 0x5be0cd19137e2179]

/-- The order in which each of the twelve rounds takes the message words. -/
def schedule : List (List Nat) :=
  let first := [
    [0, 1, 2, 3, 4, 5, 6, 7, 8, 9, 10, 11, 12, 13, 14, 15],
    [14, 10, 4, 8, 9, 15, 13, 6, 1, 12, 0, 2, 11, 7, 5, 3]]
  first ++ [
    [11, 8, 12, 0, 5, 2, 15, 13, 10, 14, 3, 6, 7, 1, 9, 4],
    [7, 9, 3, 1, 13, 12, 11, 14, 2, 6, 5, 10, 4, 0, 15, 8],
    [9, 0, 5, 7, 2, 4, 10, 15, 14, 1, 11, 12, 6, 8, 3, 13],
    [2, 12, 6, 10, 0, 11, 8, 3, 4, 13, 7, 5, 15, 14, 1, 9],
    [12, 5, 1, 15, 14, 13, 4, 10, 0, 7, 6, 3, 9, 2, 8, 11],
    [13, 11, 7, 14, 12, 1, 3, 9, 5, 0, 15, 4, 8, 6, 2, 10],
    [6, 15, 14, 9, 11, 3, 0, 8, 12, 2, 13, 7, 1, 4, 10, 5],
    [10, 2, 8, 4, 7, 6, 1, 5, 15, 11, 9, 14, 3, 12, 13, 0]] ++ first

/-- Mixes two message words into four words of the state. -/
def mix (x y : UInt64) (words : Words4) : Words4 :=
  let a := words.a + words.b + x
  let d := rotateRight (words.d ^^^ a) 32
  let c := words.c + d
  let b := rotateRight (words.b ^^^ c) 24
  let a := a + b + y
  let d := rotateRight (d ^^^ a) 16
  let c := c + d
  let b := rotateRight (b ^^^ c) 63
  ⟨a, b, c, d⟩

/-- One round with the message words in the order of the round. -/
def round (message : Words16) (order : List Nat) (state : Words16) : Words16 :=
  let word (place : Nat) : UInt64 := message.get ((order[place]?).getD 0)
  state.round fun step => mix (word (2 * step)) (word (2 * step + 1))

/-- Takes one block of 128 bytes into the eight chaining words, given the number of bytes so far. -/
def compress (chain : List UInt64) (block : Bytes) (count : Nat) (last : Bool) : List UInt64 :=
  let message := Words16.ofList ((Bytes.pieces 8 block).map Bytes.word64)
  let start := Words16.ofList (chain ++ initialWords)
  let start := { start with
    w12 := start.w12 ^^^ UInt64.ofNat count
    w14 := if last then start.w14 ^^^ 0xffffffffffffffff else start.w14 }
  let final := (schedule.foldl (fun state order => round message order state) start).toList
  (chain.zip ((final.take 8).zip (final.drop 8))).map fun (word, first, second) =>
    word ^^^ first ^^^ second

/-- Takes the blocks of a message, the last of them filled up with zeros. -/
def absorb (chain : List UInt64) (count : Nat) : List Bytes → List UInt64
  | [] => compress chain (List.replicate 128 0) count true
  | [last] =>
      compress chain (last ++ List.replicate (128 - last.length) 0) (count + last.length) true
  | block :: next :: rest =>
      absorb (compress chain block (count + 128) false) (count + 128) (next :: rest)

/-- The digest of a message, with the given number of bytes. -/
def digest (size : Nat) (message : Bytes) : Bytes :=
  let chain := match initialWords with
    | [] => []
    | first :: rest => (first ^^^ 0x01010000 ^^^ UInt64.ofNat size) :: rest
  ((absorb chain 0 (Bytes.pieces 128 message)).flatMap Bytes.ofWord64).take size

end AccessGate.Digest.Blake2b
