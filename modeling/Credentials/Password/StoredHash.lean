import Credentials.Argon2.Derive
import Credentials.Bytes.Endian

/-!
# Stored password hashes

The bytes that are kept in place of a password. The first byte tells the version of the layout: in
the legacy version the costs are fixed and not written, in the current one they precede the salt.
-/

namespace Credentials.Password

open Credentials.Argon2 Credentials.Bytes

/-- A version of the layout. -/
inductive Version where
  | legacy
  | current
deriving DecidableEq, Repr, Inhabited

namespace Version

/-- The first byte of a hash. -/
def tag : Version → UInt8
  | .legacy => 0
  | .current => 1

/-- The version with a tag. -/
def ofTag? (tag : UInt8) : Option Version :=
  if tag = 0 then some .legacy else if tag = 1 then some .current else none

/-- Bytes of the three costs. -/
def costsLength : Nat := 12

/-- Bytes that follow the tag. -/
def payloadLength : Version → Nat
  | .legacy => saltLength + outputLength
  | .current => costsLength + saltLength + outputLength

end Version

/-- The costs behind a stored hash, with the layout that goes with them. -/
inductive Costs where
  /-- The costs that are fixed by the legacy layout. -/
  | legacy
  /-- Costs that are written. -/
  | written (params : Params)
deriving DecidableEq, Repr, Inhabited

/-- The costs of new hashes where nothing else is asked for. -/
def defaultParams : Params := ⟨19456, 2, 1⟩

/-- The costs of the legacy layout. -/
def legacyParams : Params := ⟨4096, 3, 1⟩

/-- The highest costs that a stored hash may have whatever the costs of new hashes are. -/
def maxStoredParams : Params := ⟨1024 * 1024, 16, 16⟩

namespace Costs

/-- The layout that goes with the costs. -/
def version : Costs → Version
  | .legacy => .legacy
  | .written _ => .current

/-- The costs themselves. -/
def params : Costs → Params
  | .legacy => legacyParams
  | .written p => p

/-- The costs of hashes in a layout, where `p` are the costs if they are written. -/
def ofVersion (v : Version) (p : Params) : Costs :=
  match v with
  | .legacy => .legacy
  | .current => .written p

end Costs

/-- Three costs as bytes. -/
def paramsBytes (p : Params) : List UInt8 :=
  be32 p.memoryKib ++ be32 p.iterations ++ be32 p.parallelism

/-- The tag and, where the layout has them, the costs. -/
def Costs.header (c : Costs) : List UInt8 :=
  c.version.tag :: match c with
    | .legacy => []
    | .written p => paramsBytes p

/-- What a stored hash holds. -/
structure StoredHash where
  costs : Costs
  salt : Salt
  output : Output
deriving DecidableEq

/-- Why bytes are no stored hash. -/
inductive Malformed where
  | empty
  | unknownVersion (tag : UInt8)
  | lengthMismatch (tag : UInt8) (expected actual : Nat)
deriving DecidableEq, Repr

namespace StoredHash

/-- The bytes of a hash. -/
def encode (h : StoredHash) : List UInt8 := h.costs.header ++ h.salt.toList ++ h.output.toList

/-- The first `n` bytes of a list, with zeros where it is too short. -/
def takeVector (n : Nat) (bytes : List UInt8) : Vector UInt8 n :=
  Vector.ofFn fun i => bytes.getD i.val 0

/-- A salt and an output one after the other. -/
def ofSaltAndOutput (costs : Costs) (bytes : List UInt8) : StoredHash :=
  ⟨costs, takeVector saltLength bytes, takeVector outputLength (bytes.drop saltLength)⟩

/-- Reads what follows the tag, which has the length that goes with the version. -/
def ofPayload (v : Version) (payload : List UInt8) : StoredHash :=
  match v, payload with
  | .current, a :: b :: c :: d :: e :: f :: g :: h :: i :: j :: k :: l :: rest =>
    ofSaltAndOutput (.written ⟨ofBE32 a b c d, ofBE32 e f g h, ofBE32 i j k l⟩) rest
  | _, payload => ofSaltAndOutput .legacy payload

/-- Reads a stored hash. -/
def decode : List UInt8 → Except Malformed StoredHash
  | [] => .error .empty
  | tag :: payload =>
    match Version.ofTag? tag with
    | none => .error (.unknownVersion tag)
    | some v =>
      if payload.length = v.payloadLength then .ok (ofPayload v payload)
      else .error (.lengthMismatch tag v.payloadLength payload.length)

end StoredHash

end Credentials.Password
