/-!
# Token errors

Why a token is not issued, and why a text is not accepted as one.
-/

namespace Credentials

namespace Token

/-- Why a text is not a token that counts. -/
inductive DecodingError where
  /-- The text does not have three parts. -/
  | invalidToken
  | invalidSignature
  /-- The header names another algorithm than the expected one. -/
  | invalidAlgorithm
  | expiredSignature
  | invalidIssuer
  | missingRequiredClaim (name : String)
  /-- A part is not the JSON that it should be. -/
  | json
  /-- A part is not base64. -/
  | base64
deriving DecidableEq, Repr

/-- The wording of a problem. -/
def DecodingError.message : DecodingError → String
  | .invalidToken => "InvalidToken"
  | .invalidSignature => "InvalidSignature"
  | .invalidAlgorithm => "InvalidAlgorithm"
  | .expiredSignature => "ExpiredSignature"
  | .invalidIssuer => "InvalidIssuer"
  | .missingRequiredClaim name => "Missing required claim: " ++ name
  | .json => "JSON error:"
  | .base64 => "Base64 error:"

end Token

/-- Why a token is not issued or not accepted. -/
inductive TokenError where
  /-- The clock is before 1970. -/
  | time
  | wrongTokenType
  /-- A claim has a name that only the issuer may use. -/
  | reservedClaim (name : String)
  | decoding (cause : Token.DecodingError)
  /-- The claims of the issuer come to no payload. -/
  | payload (text : String)
  /-- A payload comes to no token. -/
  | encoding (text : String)
deriving DecidableEq, Repr

/-- The wording of a problem. -/
def TokenError.message : TokenError → String
  | .time => "System time error"
  | .wrongTokenType => "Wrong token type"
  | .reservedClaim name => "Claim name is reserved for the issuer: " ++ name
  | .decoding cause => "Failed to decode token: " ++ cause.message
  | .payload text => "Failed to build token payload: " ++ text
  | .encoding text => "Failed to encode token: " ++ text

end Credentials
