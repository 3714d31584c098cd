import Credentials.Json.Printer
import Credentials.Token.Algorithm
import Credentials.Token.KeyDescription

/-!
# Token headers

A header names the algorithm of the signature. Beside it, a header may hold members that are known
to describe keys and contents, and members with any other name that are strings.
-/

namespace Credentials.Token

open Credentials.Json

/-- The names of all algorithms that a header may name. -/
def algorithmNames : List String :=
  ["HS256", "HS384", "HS512", "ES256", "ES384", "RS256", "RS384", "RS512", "PS256", "PS384",
    "PS512", "EdDSA"]

namespace Header

/-- The header of a token signed in a given way. -/
def value (a : Algorithm) : Value := .object [("typ", .string "JWT"), ("alg", .string a.name)]

/-- Known members, with conditions on them. Each may be left out or be null. -/
def optionalMembers : List (String × (Value → Bool)) := [
  ("typ", isString), ("cty", isString), ("jku", isString), ("kid", isString), ("x5u", isString),
  ("x5t", isString), ("x5t#S256", isString), ("enc", isString), ("zip", isString),
  ("url", isString), ("nonce", isString), ("x5c", isArrayOf isString), ("crit", isArrayOf isString),
  ("jwk", KeyDescription.isWellFormed)]

/-- Members with a known name, each of which may occur once. -/
def knownNames : List String := "alg" :: optionalMembers.map Prod.fst

/-- The algorithm that a value names. -/
def algorithmName? (v : Value) : Option String := (choice? v).filter algorithmNames.contains

/-- Whether a member is of the kind that its name asks for; the algorithm is looked at apart. -/
def isWellFormed (name : String) (v : Value) : Bool :=
  match optionalMembers.lookup name with
  | some p => isNullOr p v
  | none => name == "alg" || isString v

/-- The name of the algorithm of a header; none if the value is no header. -/
def algorithm? : Value → Option String
  | .object members =>
    if knownNames.all (countName · members ≤ 1) && members.all fun (name, v) => isWellFormed name v
    then (members.lookup "alg").bind algorithmName?
    else none
  | _ => none

end Header

end Credentials.Token
