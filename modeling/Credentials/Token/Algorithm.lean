import Credentials.Digest.Hmac

/-!
# Signing algorithms

The ways in which a token can be signed: an authentication code over one of three hash functions.
-/

namespace Credentials.Token

/-- A way to sign tokens. -/
inductive Algorithm where
  | hs256
  | hs384
  | hs512
deriving DecidableEq, Repr, Inhabited

namespace Algorithm

/-- All algorithms. -/
def all : List Algorithm := [.hs256, .hs384, .hs512]

/-- The name that tokens carry. -/
def name : Algorithm → String
  | .hs256 => "HS256"
  | .hs384 => "HS384"
  | .hs512 => "HS512"

/-- The name that settings use. -/
def option : Algorithm → String
  | .hs256 => "hs256"
  | .hs384 => "hs384"
  | .hs512 => "hs512"

/-- The algorithm with a name used in settings. -/
def ofOption? (text : String) : Option Algorithm := all.find? (·.option = text)

/-- The hash function under the authentication code. -/
def hash : Algorithm → Digest.HashFunction
  | .hs256 => .sha256
  | .hs384 => .sha384
  | .hs512 => .sha512

/-- The signature of a message. -/
def sign (a : Algorithm) (key message : List UInt8) : List UInt8 := a.hash.hmac key message

end Algorithm

end Credentials.Token
