import Credentials.Clock
import Credentials.Token.Compact
import Credentials.Token.Header
import Credentials.Token.Payload

/-!
# Issuing and accepting tokens

An issuer signs access tokens for claims, with an opaque refresh token beside them if it is set up
to do so, and accepts the access tokens that carry its signature.
-/

namespace Credentials

open Credentials.Json Credentials.Token

/-- Random bytes of a refresh token. -/
abbrev refreshLength : Nat := 32

/-- The random bytes of one refresh token. -/
abbrev RefreshBytes := Vector UInt8 refreshLength

/-- An opaque token for a new session, and when it expires. -/
structure RefreshToken where
  text : String
  expiresAt : UInt64
deriving DecidableEq, Repr

/-- The tokens of a new session. -/
structure IssuedToken where
  accessToken : String
  expiresAt : UInt64
  refresh : Option RefreshToken
deriving DecidableEq, Repr

/-- What an accepted access token says. -/
structure AccessToken where
  issuer : String
  issuedAt : UInt64
  expiresAt : UInt64
  claims : List Claim
deriving DecidableEq, Repr

namespace AccessToken

/-- Whether the token carries a claim. -/
def hasClaim (t : AccessToken) (c : Claim) : Bool := t.claims.contains c

/-- Whether the policy on email addresses accepts the token. -/
def isEmailVerified (t : AccessToken) : Bool := t.hasClaim Claim.emailVerified

/-- Whether the token carries no claims. -/
def isAnonymous (t : AccessToken) : Bool := t.claims.isEmpty

end AccessToken

/-- Who issues and accepts tokens. -/
structure TokenIssuer where
  algorithm : Algorithm
  key : List UInt8
  name : String
  accessLifetime : Lifetime
  /-- The lifetime of refresh tokens, if they are issued. -/
  refreshLifetime : Option Lifetime
deriving DecidableEq, Repr

/-- How tokens are written. Either step may fail, with a text that tells why. -/
structure TokenWriter where
  /-- The claims of the issuer as JSON. -/
  issuerClaims : Fixed → Except String Value
  /-- The token with a payload, signed with an algorithm under a key. -/
  token : Algorithm → List UInt8 → Object → Except String String

/-- Writes objects as JSON, and the three parts of a token; no step of this can fail. -/
def TokenWriter.standard : TokenWriter where
  issuerClaims f := .ok (.object f.object.members)
  token a key payload := .ok <| .ofList <| Compact.text <|
    signed a key (Header.value a).compact (Value.compact (.object payload.members))

/-- The refresh token with given random bytes. -/
def RefreshToken.ofBytes (bytes : RefreshBytes) (expiresAt : UInt64) : RefreshToken :=
  ⟨.ofList (encodePart bytes.toList), expiresAt⟩

namespace TokenIssuer

/-- The first claim with a name that only the issuer may use. -/
def reserved? (claims : List Claim) : Option Claim :=
  claims.find? fun c => reservedNames.contains c.name

/-- The access token for claims with given times. -/
def accessToken (i : TokenIssuer) (claims : List Claim) (issuedAt expiresAt : UInt64) : String :=
  let payload := (Fixed.mk i.name issuedAt expiresAt).object.addClaims claims
  .ofList <| Compact.text <|
    signed i.algorithm i.key (Header.value i.algorithm).compact
      (Value.compact (.object payload.members))

/-- The payload with the claims of the issuer, given a way to write them. They have to be written
as an object. -/
def payloadWith (w : TokenWriter) (f : Fixed) : Except TokenError Object :=
  match w.issuerClaims f with
  | .error text => .error (.payload text)
  | .ok (.object members) => .ok (.ofMembers members)
  | .ok other => .error <| .payload <|
    "issuer claims serialized to " ++ .ofList other.compact ++ ", expected an object"

/--
Issues tokens for claims, given a way to write them. The refresh token, if there is one, is made of
the given bytes.
-/
def issueWith (w : TokenWriter) (i : TokenIssuer) (claims : List Claim) (clock : Clock)
    (bytes : RefreshBytes) : Except TokenError IssuedToken :=
  match reserved? claims with
  | some c => .error (.reservedClaim c.name)
  | none =>
    match clock.unixSeconds? with
    | none => .error .time
    | some now => do
      let expiresAt := now + i.accessLifetime.seconds
      let payload ← payloadWith w ⟨i.name, now, expiresAt⟩
      let accessToken ←
        (w.token i.algorithm i.key (payload.addClaims claims)).mapError .encoding
      return {
        accessToken
        expiresAt
        refresh := i.refreshLifetime.map fun l => .ofBytes bytes (now + l.seconds) }

/-- Issues tokens for claims. -/
def issue (i : TokenIssuer) (claims : List Claim) (clock : Clock) (bytes : RefreshBytes) :
    Except TokenError IssuedToken :=
  i.issueWith .standard claims clock bytes

/-- Reads a part of a token as JSON. -/
def readPart (part : List Char) : Except DecodingError Value :=
  match decodePart? part with
  | none => .error .base64
  | some bytes =>
    match parseBytes? bytes with
    | none => .error .json
    | some v => .ok v

/-- Checks that a header names the algorithm of the issuer. -/
def checkHeader (i : TokenIssuer) (header : List Char) : Except DecodingError Unit := do
  let v ← readPart header
  match Header.algorithm? v with
  | none => .error .json
  | some name => if name = i.algorithm.name then .ok () else .error .invalidAlgorithm

/-- Checks the signature of a token. -/
def checkSignature (i : TokenIssuer) (token : Compact) : Except DecodingError Unit :=
  match decodePart? token.signature with
  | none => .error .base64
  | some signature =>
    if signature = i.algorithm.sign i.key (Bytes.utf8 token.message) then .ok ()
    else .error .invalidSignature

/-- Reads a payload, which has to be one object, as its members. -/
def readPayload (payload : List Char) : Except DecodingError (List (String × Value)) := do
  match ← readPart payload with
  | .object members => .ok members
  | _ => .error .json

/-- The members of the payload of a token that the issuer has signed and that has not expired. -/
def decode (i : TokenIssuer) (now : UInt64) (token : List Char) :
    Except DecodingError (List (String × Value)) := do
  match Compact.parse? token with
  | none => .error .invalidToken
  | some parts =>
    i.checkHeader parts.header
    i.checkSignature parts
    let members ← readPayload parts.payload
    Registered.check members i.name now
    return members

/-- The problem of a token that is found without looking at the clock. At the second 0 no token has
expired yet, and the issuer is looked at after the clock. -/
def untimedError? (i : TokenIssuer) (token : List Char) : Option DecodingError :=
  match i.decode 0 token with
  | .error .invalidIssuer => none
  | .error e => some e
  | .ok _ => none

/-- What the members of a payload say, if they are those of an access token. -/
def accessTokenOf? (members : List (String × Value)) : Option AccessToken := do
  let payload := Object.ofMembers members
  let fixed ← Fixed.ofObject? payload
  return {
    issuer := fixed.issuer
    issuedAt := fixed.issuedAt
    expiresAt := fixed.expiresAt
    claims := Claim.ofObject (payload.eraseAll reservedNames.contains) }

/-- Accepts an access token of this issuer. -/
def validate (i : TokenIssuer) (now : UInt64) (token : String) : Except TokenError AccessToken :=
  match i.decode now token.toList with
  | .error e => .error (.decoding e)
  | .ok members =>
    match accessTokenOf? members with
    | none => .error .wrongTokenType
    | some t => .ok t

end TokenIssuer

end Credentials
