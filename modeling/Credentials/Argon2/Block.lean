import Credentials.Digest.Blake2b

/-!
# Argon2 memory blocks

A block holds 128 words, seen as eight rows of sixteen. Two blocks are compressed into one by
mixing the rows of their sum and then its columns.
-/

namespace Credentials.Argon2

open Credentials.Digest (WorkVector)
open Credentials.Digest.WorkVector (Quad rotateRight)

/-- One kibibyte of memory: eight rows of sixteen words. -/
structure Block where
  r0 : WorkVector
  r1 : WorkVector
  r2 : WorkVector
  r3 : WorkVector
  r4 : WorkVector
  r5 : WorkVector
  r6 : WorkVector
  r7 : WorkVector

/-- Addition that also multiplies the low halves of both words. -/
@[inline] def mulAdd (x y : UInt64) : UInt64 :=
  x + y + 2 * (x &&& 0xffffffff) * (y &&& 0xffffffff)

/-- The mixing step of a row: the one of BLAKE2b with `mulAdd` in place of its additions. -/
@[inline] def mix (q : Quad) : Quad :=
  let a := mulAdd q.a q.b
  let d := rotateRight (q.d ^^^ a) 32
  let c := mulAdd q.c d
  let b := rotateRight (q.b ^^^ c) 24
  let a := mulAdd a b
  let d := rotateRight (d ^^^ a) 16
  let c := mulAdd c d
  let b := rotateRight (b ^^^ c) 63
  ⟨a, b, c, d⟩

/-- Mixes the sixteen words of a row. -/
def permuteRow (v : WorkVector) : WorkVector := v.round fun _ q => mix q

namespace Block

/-- A block of zero words. -/
def zero : Block :=
  let row := WorkVector.ofList []
  ⟨row, row, row, row, row, row, row, row⟩

instance : Inhabited Block := ⟨zero⟩

/-- Replaces every row. -/
@[inline] def mapRows (f : WorkVector → WorkVector) (b : Block) : Block :=
  ⟨f b.r0, f b.r1, f b.r2, f b.r3, f b.r4, f b.r5, f b.r6, f b.r7⟩

/-- Adds two blocks bit by bit. -/
def xor (a b : Block) : Block :=
  let rows := WorkVector.zipWith (· ^^^ ·)
  ⟨rows a.r0 b.r0, rows a.r1 b.r1, rows a.r2 b.r2, rows a.r3 b.r3, rows a.r4 b.r4,
    rows a.r5 b.r5, rows a.r6 b.r6, rows a.r7 b.r7⟩

/-- Two neighbouring words of every row: a column of the block, top to bottom. -/
@[inline] def column (f g : WorkVector → UInt64) (b : Block) : WorkVector :=
  ⟨f b.r0, g b.r0, f b.r1, g b.r1, f b.r2, g b.r2, f b.r3, g b.r3,
    f b.r4, g b.r4, f b.r5, g b.r5, f b.r6, g b.r6, f b.r7, g b.r7⟩

/-- Exchanges rows and columns, a column being two words wide. -/
def transpose (b : Block) : Block :=
  ⟨b.column (·.w0) (·.w1), b.column (·.w2) (·.w3), b.column (·.w4) (·.w5),
    b.column (·.w6) (·.w7), b.column (·.w8) (·.w9), b.column (·.w10) (·.w11),
    b.column (·.w12) (·.w13), b.column (·.w14) (·.w15)⟩

/-- Compresses two blocks into one. -/
def compress (a b : Block) : Block :=
  let sum := a.xor b
  let rows := sum.mapRows permuteRow
  let columns := rows.transpose.mapRows permuteRow
  columns.transpose.xor sum

/-- The words of a block in order. -/
def toList (b : Block) : List UInt64 :=
  [b.r0, b.r1, b.r2, b.r3, b.r4, b.r5, b.r6, b.r7].flatMap WorkVector.toList

/-- The block with the given words, zero where the list is too short. -/
def ofList (words : List UInt64) : Block :=
  let row (i : Nat) := WorkVector.ofList ((words.drop (16 * i)).take 16)
  ⟨row 0, row 1, row 2, row 3, row 4, row 5, row 6, row 7⟩

/-- The bytes of a block. -/
def toBytes (b : Block) : List UInt8 := b.toList.flatMap Bytes.le64

/-- The block with the given bytes. -/
def ofBytes (bytes : List UInt8) : Block :=
  ofList ((List.range 128).map fun i => Bytes.ofLE64 ((bytes.drop (8 * i)).take 8))

end Block

end Credentials.Argon2
