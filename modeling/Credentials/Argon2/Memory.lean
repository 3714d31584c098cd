import Credentials.Argon2.Block

/-!
# Argon2 memory

The memory is a matrix of blocks with one row, called a lane, for each degree of parallelism. A lane
is cut into four segments. Every block but the first two of a lane is compressed from the block
before it and from another one, whose place is drawn from the password only in the second half of
the first pass and in all later passes.
-/

namespace Credentials.Argon2

/-- The shape of the memory: the number of lanes and the length of a segment, in blocks. -/
structure Shape where
  lanes : Nat
  segment : Nat

namespace Shape

/-- Segments of a lane. -/
def slices : Nat := 4

/-- Blocks of a lane. -/
def laneLength (s : Shape) : Nat := slices * s.segment

/-- Blocks in all. -/
def size (s : Shape) : Nat := s.lanes * s.laneLength

/-- The largest shape within the given number of blocks whose lanes fall into equal segments. -/
def ofMemory (blocks lanes : Nat) : Shape := ⟨lanes, blocks / (slices * lanes)⟩

/-- Where a block of a lane is stored. -/
@[inline] def offset (s : Shape) (lane index : Nat) : Nat := lane * s.laneLength + index

end Shape

/-- A run through one segment: the pass and slice that it belongs to, and its lane. -/
structure Segment where
  pass : Nat
  slice : Nat
  lane : Nat

namespace Segment

/-- In the first half of the first pass the places do not depend on the password. -/
def independent (g : Segment) : Bool := g.pass == 0 && g.slice < 2

/-- The first two blocks of a lane are there before the first pass. -/
def start (g : Segment) : Nat := if g.pass == 0 && g.slice == 0 then 2 else 0

/-- The block of a lane that precedes block `i` of this segment. -/
@[inline] def previous (g : Segment) (s : Shape) (i : Nat) : Nat :=
  (g.slice * s.segment + i + s.laneLength - 1) % s.laneLength

/-- The lane that a drawn word refers to. -/
@[inline] def referenceLane (g : Segment) (s : Shape) (word : UInt64) : Nat :=
  if g.pass == 0 && g.slice == 0 then g.lane else (word >>> 32).toNat % s.lanes

/--
How many blocks block `i` may refer to. They are the finished segments, in the same lane also the
blocks before the previous one, and in another lane all but the last when this is the first block.
-/
@[inline] def window (g : Segment) (s : Shape) (i : Nat) (sameLane : Bool) : Nat :=
  let finished := if g.pass == 0 then g.slice * s.segment else s.laneLength - s.segment
  if sameLane then finished + i - 1 else if i == 0 then finished - 1 else finished

/-- The block of the reference lane that a drawn word refers to; late blocks are likelier. -/
@[inline] def referenceIndex (g : Segment) (s : Shape) (i : Nat) (sameLane : Bool)
    (word : UInt64) : Nat :=
  let area := g.window s i sameLane
  let low := (word &&& 0xffffffff).toNat
  let back := area * (low * low / UInt32.size) / UInt32.size
  let first := if g.pass == 0 || g.slice == 3 then 0 else (g.slice + 1) * s.segment
  (first + (area - 1 - back)) % s.laneLength

/-- The words that the places of this segment are drawn from, 128 to a block. -/
def addresses (g : Segment) (s : Shape) (passes : Nat) (count : Nat) : Array UInt64 :=
  let input := Block.ofList ([g.pass, g.lane, g.slice, s.size, passes, 2, count].map UInt64.ofNat)
  ((Block.zero.compress (Block.zero.compress input)).toList).toArray

/-- Fills the next `n` blocks of a segment from block `i` on. -/
def fillFrom (g : Segment) (s : Shape) (passes : Nat) :
    (n i : Nat) → (drawn : Array UInt64) → (memory : Array Block) → Array Block
  | 0, _, _, memory => memory
  | n + 1, i, drawn, memory =>
    let drawn :=
      if g.independent && (i % 128 == 0 || i == g.start) then g.addresses s passes (i / 128 + 1)
      else drawn
    let previous := memory.getD (s.offset g.lane (g.previous s i)) Block.zero
    let word := if g.independent then drawn.getD (i % 128) 0 else previous.r0.w0
    let lane := g.referenceLane s word
    let reference :=
      memory.getD (s.offset lane (g.referenceIndex s i (lane == g.lane) word)) Block.zero
    let place := s.offset g.lane (g.slice * s.segment + i)
    let block := previous.compress reference
    let block := if g.pass == 0 then block else block.xor (memory.getD place Block.zero)
    fillFrom g s passes n (i + 1) drawn (memory.setIfInBounds place block)

/-- Fills a segment. -/
def fill (g : Segment) (s : Shape) (passes : Nat) (memory : Array Block) : Array Block :=
  g.fillFrom s passes (s.segment - g.start) g.start #[] memory

end Segment

/-- Makes the given number of passes over the memory. -/
def fillMemory (s : Shape) (passes : Nat) (memory : Array Block) : Array Block :=
  (List.range passes).foldl (fun memory pass =>
    (List.range Shape.slices).foldl (fun memory slice =>
      (List.range s.lanes).foldl (fun memory lane =>
        Segment.fill ⟨pass, slice, lane⟩ s passes memory) memory) memory) memory

end Credentials.Argon2
