import AccessGate.Bytes.Words
import AccessGate.Digest.Words16

/-!
# Blocks of Argon2

A block is a square of eight by eight pairs of words, stored in rows of sixteen words.  Compressing
two blocks mixes the rows of their difference, then its columns, and adds the difference back.
-/

namespace AccessGate.Argon2

open Digest

/-- A block of 1024 bytes. -/
structure Block where
  r0 : Words16
  r1 : Words16
  r2 : Words16
  r3 : Words16
  r4 : Words16
  r5 : Words16
  r6 : Words16
  r7 : Words16
  deriving Inhabited

/-- Adds to a sum twice the product of the lower halves. -/
@[inline] def addProduct (x y : UInt64) : UInt64 :=
  x + y + 2 * (x &&& 0xffffffff) * (y &&& 0xffffffff)

@[inline] def mix (words : Words4) : Words4 :=
  let a := addProduct words.a words.b
  let d := rotateRight (words.d ^^^ a) 32
  let c := addProduct words.c d
  let b := rotateRight (words.b ^^^ c) 24
  let a := addProduct a b
  let d := rotateRight (d ^^^ a) 16
  let c := addProduct c d
  let b := rotateRight (b ^^^ c) 63
  ⟨a, b, c, d⟩

def mixRow (row : Words16) : Words16 :=
  row.round fun _ => mix

namespace Block

def zero : Block :=
  ⟨.zero, .zero, .zero, .zero, .zero, .zero, .zero, .zero⟩

def rows (block : Block) : List Words16 :=
  [block.r0, block.r1, block.r2, block.r3, block.r4, block.r5, block.r6, block.r7]

/-- Applies a function to every row. -/
@[inline] def mapRows (change : Words16 → Words16) (block : Block) : Block :=
  ⟨change block.r0, change block.r1, change block.r2, change block.r3, change block.r4,
    change block.r5, change block.r6, change block.r7⟩

/-- Exchanges rows and columns of pairs. -/
def transpose (block : Block) : Block :=
  let ⟨a, b, c, d, e, f, g, h⟩ := block
  ⟨⟨a.w0, a.w1, b.w0, b.w1, c.w0, c.w1, d.w0, d.w1,
      e.w0, e.w1, f.w0, f.w1, g.w0, g.w1, h.w0, h.w1⟩,
    ⟨a.w2, a.w3, b.w2, b.w3, c.w2, c.w3, d.w2, d.w3,
      e.w2, e.w3, f.w2, f.w3, g.w2, g.w3, h.w2, h.w3⟩,
    ⟨a.w4, a.w5, b.w4, b.w5, c.w4, c.w5, d.w4, d.w5,
      e.w4, e.w5, f.w4, f.w5, g.w4, g.w5, h.w4, h.w5⟩,
    ⟨a.w6, a.w7, b.w6, b.w7, c.w6, c.w7, d.w6, d.w7,
      e.w6, e.w7, f.w6, f.w7, g.w6, g.w7, h.w6, h.w7⟩,
    ⟨a.w8, a.w9, b.w8, b.w9, c.w8, c.w9, d.w8, d.w9,
      e.w8, e.w9, f.w8, f.w9, g.w8, g.w9, h.w8, h.w9⟩,
    ⟨a.w10, a.w11, b.w10, b.w11, c.w10, c.w11, d.w10, d.w11,
      e.w10, e.w11, f.w10, f.w11, g.w10, g.w11, h.w10, h.w11⟩,
    ⟨a.w12, a.w13, b.w12, b.w13, c.w12, c.w13, d.w12, d.w13,
      e.w12, e.w13, f.w12, f.w13, g.w12, g.w13, h.w12, h.w13⟩,
    ⟨a.w14, a.w15, b.w14, b.w15, c.w14, c.w15, d.w14, d.w15,
      e.w14, e.w15, f.w14, f.w15, g.w14, g.w15, h.w14, h.w15⟩⟩

/-- The bitwise difference of two blocks. -/
def xor (first second : Block) : Block :=
  ⟨first.r0.xor second.r0, first.r1.xor second.r1, first.r2.xor second.r2,
    first.r3.xor second.r3, first.r4.xor second.r4, first.r5.xor second.r5,
    first.r6.xor second.r6, first.r7.xor second.r7⟩

/-- Mixes the rows and then the columns. -/
def permute (block : Block) : Block :=
  ((block.mapRows mixRow).transpose.mapRows mixRow).transpose

/-- Compresses two blocks into one. -/
def compress (first second : Block) : Block :=
  let difference := first.xor second
  difference.permute.xor difference

def words (block : Block) : List UInt64 :=
  block.rows.flatMap Words16.toList

/-- The block of 1024 bytes. -/
def ofBytes (bytes : Bytes) : Block :=
  let rows := (bytes.pieces 128).map fun row => Words16.ofList ((row.pieces 8).map Bytes.word64)
  let row (place : Nat) : Words16 := (rows[place]?).getD .zero
  ⟨row 0, row 1, row 2, row 3, row 4, row 5, row 6, row 7⟩

def bytes (block : Block) : Bytes :=
  block.words.flatMap Bytes.ofWord64

end Block

end AccessGate.Argon2
