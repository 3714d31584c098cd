import Credentials.Claim
import Credentials.Json.Shape
import Credentials.Token.Error

/-!
# Token payloads

The payload of an access token holds the claims of the issuer, which are fixed in number, beside
those of the caller. Reading a payload first looks at the claims that every token may carry, as they
are written, repeated names included, and then at the members by name.
-/

namespace Credentials.Token

open Credentials.Json Credentials.Number

/-- Names of claims that only the issuer sets. -/
def reservedNames : List String := ["iss", "iat", "exp", "typ"]

/-- The marker of access tokens, the only type of signed token. -/
def accessType : String := "access"

/-- The claims that the issuer sets. -/
structure Fixed where
  issuer : String
  issuedAt : UInt64
  expiresAt : UInt64
deriving DecidableEq, Repr

namespace Fixed

/-- The payload with the claims of the issuer only. -/
def object (f : Fixed) : Object :=
  (((Object.empty.insert "iss" (.string f.issuer)).insert "typ" (.string accessType)).insert
    "iat" (Value.ofWord f.issuedAt)).insert "exp" (Value.ofWord f.expiresAt)

/-- Members once for each name, in objects at the outermost level. -/
def withoutRepetitions : Value → Value
  | .object members => .object (Object.ofMembers members).members
  | v => v

/-- Whether a value marks an access token. -/
def isAccess (v : Value) : Bool := choice? (withoutRepetitions v) == some accessType

/-- The claims of the issuer, if they all are there and of the right type. -/
def ofObject? (o : Object) : Option Fixed := do
  let issuer ← (o.get? "iss").bind Value.string?
  let issuedAt ← (o.get? "iat").bind Value.word?
  let expiresAt ← (o.get? "exp").bind Value.word?
  guard (isAccess (← o.get? "typ"))
  return ⟨issuer, issuedAt, expiresAt⟩

end Fixed

namespace Registered

/-- Claims that every token may carry, each at most once. -/
def names : List String := ["exp", "nbf", "sub", "iss", "aud"]

/-- Whether a value is tolerated under a name, be it of the right type or not. -/
def isTolerated (name : String) (v : Value) : Bool :=
  if name == "sub" then !isComposite v
  else if name == "exp" || name == "nbf" then !isFilled v
  else true

/-- Whether the members can be looked at as registered claims at all. -/
def areReadable (members : List (String × Value)) : Bool :=
  names.all (countName · members ≤ 1) &&
    members.all fun (name, v) => isTolerated name v

/-- The second at which a token expires: an integer, or a double rounded to the nearest one. -/
def expiry? : Value → Option Nat
  | .number (.integer n) => if 0 ≤ n then some n.toNat else none
  | .number (.real x) =>
    let (num, den) := x.magnitude.ratio
    if x.negative && !x.magnitude.isZero then none
    else if num < den * UInt64.size then some (roundHalfUp num den)
    else none
  | _ => none

/-- The issuers that a token names: one, or a list of them. -/
def issuers? : Value → Option (List String)
  | .string s => some [s]
  | .array items => items.mapM Value.string?
  | _ => none

/--
Checks the expiry and the issuer of a token. Where neither can be used, either might be named as
what is missing, since no order is laid down for claims that are required; here it is the expiry.
-/
def check (members : List (String × Value)) (issuer : String) (now : UInt64) :
    Except DecodingError Unit :=
  if !areReadable members then .error .json
  else match (members.lookup "exp").bind expiry?, (members.lookup "iss").bind issuers? with
    | none, _ => .error (.missingRequiredClaim "exp")
    | some _, none => .error (.missingRequiredClaim "iss")
    | some expiry, some issuers =>
      if expiry < now.toNat then .error .expiredSignature
      else if !issuers.contains issuer then .error .invalidIssuer
      else .ok ()

end Registered

end Credentials.Token
