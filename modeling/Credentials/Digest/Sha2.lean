import Credentials.Bytes.Blocks
import Credentials.Bytes.Endian

/-!
# The SHA-2 family

All members of the family take a message in by blocks of sixteen words and mix each block into a
state of eight words. They differ in the size of a word, in the number of rounds, and in constants.
-/

namespace Credentials.Digest

namespace Sha2

/-- Three amounts by which a word is turned or moved before the results are added bit by bit. -/
structure Amounts where
  first : Nat
  second : Nat
  third : Nat

/-- What the members of the family with words `w` share. -/
structure Words (w : Type) where
  /-- Bytes of a word. -/
  size : Nat
  zero : w
  /-- The word that some bytes spell, most significant first. -/
  ofBytes : List UInt8 → w
  /-- The bytes of a word, most significant first. -/
  toBytes : w → List UInt8
  /-- Rotates a word to the right. -/
  rotate : w → Nat → w
  /-- Moves a word to the right. -/
  shift : w → Nat → w
  /-- For the older and the newer schedule word: two rotations and a shift. -/
  schedule0 : Amounts
  schedule1 : Amounts
  /-- For the first and the fifth word of the state: three rotations. -/
  state0 : Amounts
  state1 : Amounts
  /-- One word for each round: fractional parts of the cube roots of the first primes. -/
  constants : List w

/-- The eight words that a message is mixed into. -/
structure State (w : Type) where
  a : w
  b : w
  c : w
  d : w
  e : w
  f : w
  g : w
  h : w

/-- The words of a state in order. -/
def State.toList {w : Type} (s : State w) : List w := [s.a, s.b, s.c, s.d, s.e, s.f, s.g, s.h]

namespace Words

variable {w : Type} [Add w] [AndOp w] [XorOp w] [Complement w] (k : Words w)

/-- Bytes of a block. -/
def blockSize : Nat := 16 * k.size

/-- The small mixing function of the schedule. -/
def mixShift (n : Amounts) (x : w) : w :=
  k.rotate x n.first ^^^ k.rotate x n.second ^^^ k.shift x n.third

/-- The large mixing function of the rounds. -/
def mixRotate (n : Amounts) (x : w) : w :=
  k.rotate x n.first ^^^ k.rotate x n.second ^^^ k.rotate x n.third

/-- Extends the sixteen words of a block by the given number of words. -/
def extend : Nat → Array w → Array w
  | 0, ws => ws
  | n + 1, ws =>
    let back (i : Nat) := ws.getD (ws.size - i) k.zero
    let next := k.mixShift k.schedule1 (back 2) + back 7 +
      k.mixShift k.schedule0 (back 15) + back 16
    extend n (ws.push next)

/-- The words that the rounds take in, one each. -/
def schedule (block : List UInt8) : List w :=
  let words := (Bytes.blocks (k.size - 1) block).map k.ofBytes
  (k.extend (k.constants.length - 16) words.toArray).toList

/-- One round, which takes in a constant and a word of the schedule. -/
def step (s : State w) (round : w × w) : State w :=
  let choice := (s.e &&& s.f) ^^^ (~~~s.e &&& s.g)
  let majority := (s.a &&& s.b) ^^^ (s.a &&& s.c) ^^^ (s.b &&& s.c)
  let t := s.h + k.mixRotate k.state1 s.e + choice + round.1 + round.2
  ⟨t + (k.mixRotate k.state0 s.a + majority), s.a, s.b, s.c, s.d + t, s.e, s.f, s.g⟩

/-- Takes one block into the state. -/
def compress (s : State w) (block : List UInt8) : State w :=
  let t := (k.constants.zip (k.schedule block)).foldl k.step s
  ⟨s.a + t.a, s.b + t.b, s.c + t.c, s.d + t.d, s.e + t.e, s.f + t.f, s.g + t.g, s.h + t.h⟩

/-- The message with a one bit, zero bits and its length in bits, which fill up its last block. -/
def pad (message : List UInt8) : List UInt8 :=
  let length := List.replicate (2 * k.size - 8) 0 ++ Bytes.be64 (.ofNat (8 * message.length))
  let used := (message.length + 1 + length.length) % k.blockSize
  message ++ 0x80 :: List.replicate ((k.blockSize - used) % k.blockSize) 0 ++ length

/-- The bytes of the state that a whole message leads to. -/
def hash (start : State w) (message : List UInt8) : List UInt8 :=
  ((Bytes.blocks (k.blockSize - 1) (k.pad message)).foldl k.compress start).toList.flatMap k.toBytes

end Words

/-- The members with 32-bit words. -/
def words32 : Words UInt32 where
  size := 4
  zero := 0
  ofBytes bytes := (Bytes.ofBE64 bytes).toUInt32
  toBytes := Bytes.be32
  rotate x n := (x >>> .ofNat n) ||| (x <<< .ofNat (32 - n))
  shift x n := x >>> .ofNat n
  schedule0 := ⟨7, 18, 3⟩
  schedule1 := ⟨17, 19, 10⟩
  state0 := ⟨2, 13, 22⟩
  state1 := ⟨6, 11, 25⟩
  constants := [
    0x428a2f98, 0x71374491, 0xb5c0fbcf, 0xe9b5dba5, 0x3956c25b, 0x59f111f1, 0x923f82a4,
    0xab1c5ed5, 0xd807aa98, 0x12835b01, 0x243185be, 0x550c7dc3, 0x72be5d74, 0x80deb1fe,
    0x9bdc06a7, 0xc19bf174, 0xe49b69c1, 0xefbe4786, 0x0fc19dc6, 0x240ca1cc, 0x2de92c6f,
    0x4a7484aa, 0x5cb0a9dc, 0x76f988da, 0x983e5152, 0xa831c66d, 0xb00327c8, 0xbf597fc7,
    0xc6e00bf3, 0xd5a79147, 0x06ca6351, 0x14292967, 0x27b70a85, 0x2e1b2138, 0x4d2c6dfc,
    0x53380d13, 0x650a7354, 0x766a0abb, 0x81c2c92e, 0x92722c85, 0xa2bfe8a1, 0xa81a664b,
    0xc24b8b70, 0xc76c51a3, 0xd192e819, 0xd6990624, 0xf40e3585, 0x106aa070, 0x19a4c116,
    0x1e376c08, 0x2748774c, 0x34b0bcb5, 0x391c0cb3, 0x4ed8aa4a, 0x5b9cca4f, 0x682e6ff3,
    0x748f82ee, 0x78a5636f, 0x84c87814, 0x8cc70208, 0x90befffa, 0xa4506ceb, 0xbef9a3f7,
    0xc67178f2]

/-- The members with 64-bit words. -/
def words64 : Words UInt64 where
  size := 8
  zero := 0
  ofBytes := Bytes.ofBE64
  toBytes := Bytes.be64
  rotate x n := (x >>> .ofNat n) ||| (x <<< .ofNat (64 - n))
  shift x n := x >>> .ofNat n
  schedule0 := ⟨1, 8, 7⟩
  schedule1 := ⟨19, 61, 6⟩
  state0 := ⟨28, 34, 39⟩
  state1 := ⟨14, 18, 41⟩
  constants := [
    0x428a2f98d728ae22, 0x7137449123ef65cd, 0xb5c0fbcfec4d3b2f, 0xe9b5dba58189dbbc,
    0x3956c25bf348b538, 0x59f111f1b605d019, 0x923f82a4af194f9b, 0xab1c5ed5da6d8118,
    0xd807aa98a3030242, 0x12835b0145706fbe, 0x243185be4ee4b28c, 0x550c7dc3d5ffb4e2,
    0x72be5d74f27b896f, 0x80deb1fe3b1696b1, 0x9bdc06a725c71235, 0xc19bf174cf692694,
    0xe49b69c19ef14ad2, 0xefbe4786384f25e3, 0x0fc19dc68b8cd5b5, 0x240ca1cc77ac9c65,
    0x2de92c6f592b0275, 0x4a7484aa6ea6e483, 0x5cb0a9dcbd41fbd4, 0x76f988da831153b5,
    0x983e5152ee66dfab, 0xa831c66d2db43210, 0xb00327c898fb213f, 0xbf597fc7beef0ee4,
    0xc6e00bf33da88fc2, 0xd5a79147930aa725, 0x06ca6351e003826f, 0x142929670a0e6e70,
    0x27b70a8546d22ffc, 0x2e1b21385c26c926, 0x4d2c6dfc5ac42aed, 0x53380d139d95b3df,
    0x650a73548baf63de, 0x766a0abb3c77b2a8, 0x81c2c92e47edaee6, 0x92722c851482353b,
    0xa2bfe8a14cf10364, 0xa81a664bbc423001, 0xc24b8b70d0f89791, 0xc76c51a30654be30,
    0xd192e819d6ef5218, 0xd69906245565a910, 0xf40e35855771202a, 0x106aa07032bbd1b8,
    0x19a4c116b8d2d0c8, 0x1e376c085141ab53, 0x2748774cdf8eeb99, 0x34b0bcb5e19b48a8,
    0x391c0cb3c5c95a63, 0x4ed8aa4ae3418acb, 0x5b9cca4f7763e373, 0x682e6ff3d6b2b8a3,
    0x748f82ee5defb2fc, 0x78a5636f43172f60, 0x84c87814a1f0ab72, 0x8cc702081a6439ec,
    0x90befffa23631e28, 0xa4506cebde82bde9, 0xbef9a3f7b2c67915, 0xc67178f2e372532b,
    0xca273eceea26619c, 0xd186b8c721c0c207, 0xeada7dd6cde0eb1e, 0xf57d4f7fee6ed178,
    0x06f067aa72176fba, 0x0a637dc5a2c898a6, 0x113f9804bef90dae, 0x1b710b35131c471b,
    0x28db77f523047d84, 0x32caab7b40c72493, 0x3c9ebe0a15c9bebc, 0x431d67c49c100d4c,
    0x4cc5d4becb3e42b6, 0x597f299cfc657e2a, 0x5fcb6fab3ad6faec, 0x6c44198c4a475817]

/-- The start of SHA-256: fractional parts of the square roots of the first eight primes. -/
def start256 : State UInt32 :=
  ⟨0x6a09e667, 0xbb67ae85, 0x3c6ef372, 0xa54ff53a, 0x510e527f, 0x9b05688c, 0x1f83d9ab,
    0x5be0cd19⟩

/-- The start of SHA-384: fractional parts of the square roots of the next eight primes. -/
def start384 : State UInt64 :=
  ⟨0xcbbb9d5dc1059ed8, 0x629a292a367cd507, 0x9159015a3070dd17, 0x152fecd8f70e5939,
    0x67332667ffc00b31, 0x8eb44a8768581511, 0xdb0c2e0d64f98fa7, 0x47b5481dbefa4fa4⟩

/-- The start of SHA-512: those of the first eight primes, with more bits. -/
def start512 : State UInt64 :=
  ⟨0x6a09e667f3bcc908, 0xbb67ae8584caa73b, 0x3c6ef372fe94f82b, 0xa54ff53a5f1d36f1,
    0x510e527fade682d1, 0x9b05688c2b3e6c1f, 0x1f83d9abfb41bd6b, 0x5be0cd19137e2179⟩

end Sha2

open Sha2

/-- The 32-byte digest of SHA-256. -/
def sha256 (message : List UInt8) : List UInt8 := words32.hash start256 message

/-- The 48-byte digest of SHA-384, a part of a final state. -/
def sha384 (message : List UInt8) : List UInt8 := (words64.hash start384 message).take 48

/-- The 64-byte digest of SHA-512. -/
def sha512 (message : List UInt8) : List UInt8 := words64.hash start512 message

end Credentials.Digest
