import Credentials.Digest.Sha2

/-!
# Keyed message authentication

HMAC over any hash function that takes its message in by blocks.
-/

namespace Credentials.Digest

/-- A hash function, with the size of the blocks that it takes a message in by. -/
structure HashFunction where
  blockSize : Nat
  digest : List UInt8 → List UInt8

namespace HashFunction

/-- SHA-256. -/
def sha256 : HashFunction := ⟨64, Digest.sha256⟩

/-- SHA-384. -/
def sha384 : HashFunction := ⟨128, Digest.sha384⟩

/-- SHA-512. -/
def sha512 : HashFunction := ⟨128, Digest.sha512⟩

/-- A key is filled up with zero bytes to one block; a longer key is hashed first. -/
def blockKey (h : HashFunction) (key : List UInt8) : List UInt8 :=
  let key := if h.blockSize < key.length then h.digest key else key
  key ++ List.replicate (h.blockSize - key.length) 0

/-- The authentication code of a message under a key. -/
def hmac (h : HashFunction) (key message : List UInt8) : List UInt8 :=
  let key := h.blockKey key
  h.digest (key.map (· ^^^ 0x5c) ++ h.digest (key.map (· ^^^ 0x36) ++ message))

end HashFunction

end Credentials.Digest
