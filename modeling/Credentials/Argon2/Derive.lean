import Credentials.Argon2.Memory
import Credentials.Argon2.Params

/-!
# Argon2id

The key derivation function in version 1.3, with a 16-byte salt, a 32-byte output, and neither
secret nor associated data.
-/

namespace Credentials.Argon2

open Credentials.Digest

/-- Bytes of a salt. -/
abbrev saltLength : Nat := 16

/-- Bytes of an output. -/
abbrev outputLength : Nat := 32

/-- The random bytes that tell two hashes of one password apart. -/
abbrev Salt := Vector UInt8 saltLength

/-- What a password is turned into. -/
abbrev Output := Vector UInt8 outputLength

/-- A function that derives an output from password bytes, a salt and usable costs. -/
abbrev KeyDerivation := List UInt8 → Salt → Params → Output

/-- The chain of digests behind a long output: 32 bytes of each but the last one. -/
def longHashChain : (n : Nat) → (last : Nat) → List UInt8 → List UInt8
  | 0, last, digest => Blake2b.hash last digest
  | n + 1, last, digest =>
    let next := Blake2b.hash Blake2b.maxDigest digest
    next.take 32 ++ longHashChain n last next

/-- The hash with an output of any length. -/
def longHash (size : Nat) (message : List UInt8) : List UInt8 :=
  let message := Bytes.le32 (.ofNat size) ++ message
  if size ≤ Blake2b.maxDigest then Blake2b.hash size message
  else
    let rounds := (size + 31) / 32 - 2
    longHashChain rounds (size - 32 * rounds) message

/-- The digest of all inputs that the memory is started from. -/
def seed (password : List UInt8) (salt : Salt) (p : Params) : List UInt8 :=
  let field (bytes : List UInt8) := Bytes.le32 (.ofNat bytes.length) ++ bytes
  Blake2b.hash Blake2b.maxDigest <|
    [p.parallelism, .ofNat outputLength, p.memoryKib, p.iterations, 0x13, 2].flatMap Bytes.le32 ++
      field password ++ field salt.toList ++ field [] ++ field []

/-- The memory before the first pass: two blocks of each lane are drawn from the seed. -/
def initialMemory (s : Shape) (seed : List UInt8) : Array Block :=
  (List.range s.lanes).foldl (fun memory lane =>
    [0, 1].foldl (fun memory i =>
      memory.setIfInBounds (s.offset lane i) <| Block.ofBytes <| longHash 1024 <|
        seed ++ Bytes.le32 (.ofNat i) ++ Bytes.le32 (.ofNat lane)) memory)
    (Array.replicate s.size Block.zero)

/-- The sum of the last blocks of all lanes. -/
def finalBlock (s : Shape) (memory : Array Block) : Block :=
  (List.range s.lanes).foldl (fun sum lane =>
    sum.xor (memory.getD (s.offset lane (s.laneLength - 1)) Block.zero)) Block.zero

/-- Argon2id. -/
def argon2id : KeyDerivation := fun password salt p =>
  let s := Shape.ofMemory p.memoryKib.toNat p.parallelism.toNat
  let memory := fillMemory s p.iterations.toNat (initialMemory s (seed password salt p))
  let output := longHash outputLength (finalBlock s memory).toBytes
  Vector.ofFn fun i => output.getD i.val 0

end Credentials.Argon2
