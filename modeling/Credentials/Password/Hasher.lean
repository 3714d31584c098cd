import Credentials.Bytes.Utf8
import Credentials.Log
import Credentials.Password.StoredHash

/-!
# Hashing and checking passwords

A hasher writes new hashes with its own costs and checks a password against a hash with any costs up
to a ceiling. The answer tells a wrong password from bytes that are no hash, and a hash that is as
new hashes are from one that should be replaced.
-/

namespace Credentials.Password

open Credentials.Argon2

/-- The answer to a check. -/
inductive Outcome where
  | fail
  | versionNotFound
  | lengthMismatch
  | success
  | successRehashNeeded
deriving DecidableEq, Repr, Inhabited

namespace Outcome

/-- Whether the password has been accepted. -/
def isSuccess : Outcome → Bool
  | .success => true
  | .successRehashNeeded => true
  | _ => false

/-- Whether the hash should be replaced. -/
def needsRehash : Outcome → Bool
  | .successRehashNeeded => true
  | _ => false

/-- How an answer is written. -/
def text : Outcome → String
  | .fail => "fail"
  | .versionNotFound => "version_not_found"
  | .lengthMismatch => "length_mismatch"
  | .success => "success"
  | .successRehashNeeded => "success_rehash_needed"

end Outcome

/-- What a check finds out. -/
inductive Finding where
  | malformed (cause : Malformed)
  /-- The costs are above the ceiling, so nothing has been derived. -/
  | tooCostly (params : Params)
  /-- Nothing can be derived with the costs. -/
  | unusable (cause : ParamError)
  | wrongPassword
  /-- The password is right; `current` tells whether new hashes have the same costs and layout. -/
  | accepted (current : Bool)
deriving DecidableEq, Repr

namespace Finding

/-- The answer that goes with a finding. -/
def outcome : Finding → Outcome
  | .malformed (.lengthMismatch ..) => .lengthMismatch
  | .malformed _ => .versionNotFound
  | .tooCostly _ => .fail
  | .unusable _ => .fail
  | .wrongPassword => .fail
  | .accepted true => .success
  | .accepted false => .successRehashNeeded

/-- What the operator is told. -/
def event? : Finding → Option LogEvent
  | .malformed .empty => some ⟨.warn, .passwords, "Stored password hash is empty", []⟩
  | .malformed (.unknownVersion tag) =>
    some ⟨.warn, .passwords, "Unknown password hash version", [("tag", .number tag.toNat)]⟩
  | .malformed (.lengthMismatch tag expected actual) =>
    some ⟨.warn, .passwords, "Password hash payload has unexpected length",
      [("tag", .number tag.toNat), ("expected", .number expected), ("actual", .number actual)]⟩
  | .tooCostly p =>
    some ⟨.warn, .passwords, "Stored password hash parameters exceed the allowed cost",
      [("memory_kib", .number p.memoryKib.toNat), ("iterations", .number p.iterations.toNat),
        ("parallelism", .number p.parallelism.toNat)]⟩
  | .unusable cause =>
    some ⟨.warn, .passwords, "Stored password hash has unusable parameters",
      [("error", .text cause.message)]⟩
  | .wrongPassword => none
  | .accepted _ => none

/-- The events of a finding. -/
def events (f : Finding) : List LogEvent := f.event?.toList

end Finding

/-- Why a password is not hashed. -/
inductive HashError where
  | params (cause : ParamError)
deriving DecidableEq, Repr

/-- The wording of the problem. -/
def HashError.message : HashError → String
  | .params cause => "failed to hash password: " ++ cause.message

/-- Writes and checks stored hashes. -/
structure Hasher where
  version : Version
  /-- The costs of new hashes, if the layout has them written. -/
  params : Params
deriving DecidableEq, Repr, Inhabited

namespace Hasher

/-- The costs of new hashes. -/
def costs (h : Hasher) : Costs := .ofVersion h.version h.params

/-- The highest costs that a stored hash may have. -/
def ceiling (h : Hasher) : Params := h.params.maxEach maxStoredParams

/-- The bytes of a password that go into the derivation. -/
def passwordBytes (password : String) : List UInt8 := Bytes.utf8 password.toList

/-- Hashes a password, given a function to derive with. -/
def hashWith (derive : KeyDerivation) (h : Hasher) (password : String) (salt : Salt) :
    Except HashError StoredHash :=
  match h.costs.params.check with
  | .error e => .error (.params e)
  | .ok () => .ok ⟨h.costs, salt, derive (passwordBytes password) salt h.costs.params⟩

/-- Checks a password against the hash that some bytes hold, given a function to derive with. -/
def inspectWith (derive : KeyDerivation) (h : Hasher) (password : String) (stored : List UInt8) :
    Finding :=
  match StoredHash.decode stored with
  | .error cause => .malformed cause
  | .ok hash =>
    let params := hash.costs.params
    if params.exceeds h.ceiling then .tooCostly params
    else match params.check with
      | .error cause => .unusable cause
      | .ok () =>
        if derive (passwordBytes password) hash.salt params = hash.output then
          .accepted (hash.costs = h.costs)
        else .wrongPassword

/-- Hashes a password with Argon2id. -/
def hash (h : Hasher) (password : String) (salt : Salt) : Except HashError StoredHash :=
  h.hashWith argon2id password salt

/-- Checks a password with Argon2id. -/
def inspect (h : Hasher) (password : String) (stored : List UInt8) : Finding :=
  h.inspectWith argon2id password stored

/-- The answer to a check with Argon2id. -/
def verify (h : Hasher) (password : String) (stored : List UInt8) : Outcome :=
  (h.inspect password stored).outcome

end Hasher

end Credentials.Password
