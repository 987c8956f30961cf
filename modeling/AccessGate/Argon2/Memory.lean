import AccessGate.Argon2.Block

/-!
# The memory of Argon2id

The memory is a number of lanes of equal length, each cut into four slices.  Passes fill the lanes
slice by slice.  A block is compressed from its predecessor in the lane and from a reference block
anywhere in the part of the memory that is complete.  In the first two slices of the first pass the
choice of the reference block depends on the position alone; afterwards it depends on the
predecessor.
-/

namespace AccessGate.Argon2

/-- The shape of the memory: the number of lanes, of blocks in a quarter of a lane, and of
passes. -/
structure Shape where
  lanes : Nat
  segment : Nat
  passes : Nat

namespace Shape

/-- The number of blocks in a lane. -/
def laneLength (shape : Shape) : Nat :=
  4 * shape.segment

/-- The number of blocks. -/
def blocks (shape : Shape) : Nat :=
  shape.lanes * shape.laneLength

end Shape

/-- A quarter of a lane during one pass. -/
structure Segment where
  pass : Nat
  lane : Nat
  slice : Nat

/-- Whether reference blocks are chosen by position alone. -/
def Segment.isIndependent (segment : Segment) : Bool :=
  segment.pass = 0 && segment.slice < 2

/-- The random words that choose the reference blocks of a segment by position. -/
def addressWords (shape : Shape) (segment : Segment) : Array UInt64 :=
  let row (number : Nat) : Digest.Words16 := Digest.Words16.ofList
    [UInt64.ofNat segment.pass, UInt64.ofNat segment.lane, UInt64.ofNat segment.slice,
      UInt64.ofNat shape.blocks, UInt64.ofNat shape.passes, 2, UInt64.ofNat number]
  let block (number : Nat) : Block :=
    Block.compress .zero (Block.compress .zero { Block.zero with r0 := row number })
  ((List.range (shape.segment / 128 + 1)).flatMap fun number =>
    (block (number + 1)).words).toArray

/-- The place of the reference block for a random word: its lane and its index in the lane. -/
def referencePlace (shape : Shape) (segment : Segment) (index : Nat) (random : UInt64) :
    Nat × Nat :=
  let lane :=
    if segment.pass = 0 && segment.slice = 0 then segment.lane
    else (random >>> 32).toNat % shape.lanes
  let finished :=
    if segment.pass = 0 then segment.slice * shape.segment else 3 * shape.segment
  let area :=
    if lane = segment.lane then finished + index - 1
    else if index = 0 then finished - 1 else finished
  let fraction := (random &&& 0xffffffff).toNat
  let distance := area * (fraction * fraction / Nat.pow 2 32) / Nat.pow 2 32
  let start := if segment.pass = 0 then 0 else (segment.slice + 1) * shape.segment
  (lane, (start + (area - 1 - distance)) % shape.laneLength)

def fillBlock (shape : Shape) (segment : Segment) (addresses : Array UInt64)
    (memory : Array Block) (index : Nat) : Array Block :=
  let column := segment.slice * shape.segment + index
  let base := segment.lane * shape.laneLength
  let previous := memory.getD (base + (column + shape.laneLength - 1) % shape.laneLength) .zero
  let random :=
    if segment.isIndependent then addresses.getD index 0 else previous.r0.w0
  let (lane, place) := referencePlace shape segment index random
  let fresh := previous.compress (memory.getD (lane * shape.laneLength + place) .zero)
  let block := if segment.pass = 0 then fresh else fresh.xor (memory.getD (base + column) .zero)
  memory.setIfInBounds (base + column) block

/-- Fills the blocks of a segment from an index on. -/
def fillFrom (shape : Shape) (segment : Segment) (addresses : Array UInt64) :
    (count : Nat) → (index : Nat) → Array Block → Array Block
  | 0, _, memory => memory
  | count + 1, index, memory =>
      fillFrom shape segment addresses count (index + 1)
        (fillBlock shape segment addresses memory index)

/-- Fills a segment.  The first two blocks of each lane are given before the first pass. -/
def fillSegment (shape : Shape) (memory : Array Block) (segment : Segment) : Array Block :=
  let addresses := if segment.isIndependent then addressWords shape segment else #[]
  let first := if segment.pass = 0 && segment.slice = 0 then 2 else 0
  fillFrom shape segment addresses (shape.segment - first) first memory

/-- The segments in the order in which they are filled. -/
def segments (shape : Shape) : List Segment :=
  (List.range shape.passes).flatMap fun pass =>
    (List.range 4).flatMap fun slice =>
      (List.range shape.lanes).map fun lane => { pass, lane, slice }

/-- Fills the memory from its first blocks. -/
def fill (shape : Shape) (memory : Array Block) : Array Block :=
  (segments shape).foldl (fillSegment shape) memory

/-- The difference of the last blocks of all lanes. -/
def lastBlocks (shape : Shape) (memory : Array Block) : Block :=
  (List.range shape.lanes).foldl
    (fun block lane => block.xor (memory.getD ((lane + 1) * shape.laneLength - 1) .zero)) .zero

end AccessGate.Argon2
