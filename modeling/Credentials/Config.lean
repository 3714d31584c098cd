import Credentials.Email.Template
import Credentials.Password.Hasher
import Credentials.Token.Issuer
import Credentials.Url.Parser

/-!
# Configuration

Settings are what an operator asks for. A configuration is settings that have been checked, once and
before anything else is done: what it holds makes no later operation fail.
-/

namespace Credentials

open Credentials.Password Credentials.Token

/-- What is wrong with the base of a link. -/
inductive LinkProblem where
  | notAbsolute
  | noQuery
  | insecure
deriving DecidableEq, Repr

/-- The wording of a problem with the base of a link. -/
def LinkProblem.message : LinkProblem → String
  | .notAbsolute => "not an absolute URL"
  | .noQuery => "URL cannot carry a query"
  | .insecure => "must use HTTPS for non-localhost hosts"

/-- Why a key file cannot be read. -/
inductive FileProblem where
  | notFound
  | isDirectory
  | other (text : String)
deriving DecidableEq, Repr

/-- The wording of a problem with a file. -/
def FileProblem.message : FileProblem → String
  | .notFound => "No such file or directory (os error 2)"
  | .isDirectory => "Is a directory (os error 21)"
  | .other text => text

/-- What is wrong with settings. -/
inductive ConfigError where
  | missingSigningKey
  | signingKeyTooShort (length : Nat)
  | signingKeyFile (path : String) (cause : FileProblem)
  | invalidLinkBase (name url : String) (cause : LinkProblem)
  | invalidHashParams (cause : Argon2.ParamError)
  | zeroLifetime (name : String)
deriving DecidableEq, Repr

/-- The wording of a problem with settings. -/
def ConfigError.message : ConfigError → String
  | .missingSigningKey => "signing key is required"
  | .signingKeyTooShort length =>
    "signing key is shorter than 32 bytes (" ++ toString length ++ " bytes given)"
  | .signingKeyFile path cause =>
    "failed to read signing key file " ++ path ++ ": " ++ cause.message
  | .invalidLinkBase name url cause =>
    name ++ " is not a valid link base (" ++ url ++ "): " ++ cause.message
  | .invalidHashParams cause => "invalid password hash parameters: " ++ cause.message
  | .zeroLifetime name => name ++ " must be greater than zero"

/-- Least number of bytes in a signing key. -/
def minKeyLength : Nat := 32

/-- What an operator asks for. -/
structure Settings where
  key : List UInt8
  algorithm : Algorithm := .hs256
  issuer : String := "warden"
  accessLifetime : Lifetime := .ofSeconds 300
  issueRefresh : Bool := true
  refreshLifetime : Lifetime := .ofSeconds 1209600
  verificationBase : String := "http://localhost:8080/verify-email"
  resetBase : String := "http://localhost:8080/reset-password"
  hashVersion : Version := .current
  hashParams : Argon2.Params := defaultParams
deriving DecidableEq, Repr

/-- Settings that have been checked. -/
structure Config where
  key : List UInt8
  algorithm : Algorithm
  issuer : String
  accessLifetime : Lifetime
  issueRefresh : Bool
  refreshLifetime : Lifetime
  verificationBase : Url
  resetBase : Url
  hashVersion : Version
  hashParams : Argon2.Params
deriving DecidableEq, Repr

/-- Reads the base of a link. Only links to the machine itself may do without encryption. -/
def linkBase (raw : String) : Except LinkProblem Url :=
  match AbsoluteUrl.parse? raw with
  | none => .error .notAbsolute
  | some .opaqueUrl => .error .noQuery
  | some .other => .error .insecure
  | some (.web url) =>
    if url.scheme = .https ∨ url.host.isLocal then .ok url else .error .insecure

namespace Settings

/-- Checks the signing key. -/
def checkKey (s : Settings) : Except ConfigError Unit :=
  if s.key.isEmpty then .error .missingSigningKey
  else if s.key.length < minKeyLength then .error (.signingKeyTooShort s.key.length)
  else .ok ()

/-- Checks the lifetimes. That of refresh tokens counts only if they are issued. -/
def checkLifetimes (s : Settings) : Except ConfigError Unit :=
  if s.accessLifetime.isZero then .error (.zeroLifetime "access token lifetime")
  else if s.issueRefresh && s.refreshLifetime.isZero then
    .error (.zeroLifetime "refresh token lifetime")
  else .ok ()

/-- Checks the costs of new hashes. -/
def checkParams (s : Settings) : Except ConfigError Unit :=
  match s.hashParams.check with
  | .error e => .error (.invalidHashParams e)
  | .ok () => .ok ()

/-- Reads the base of the links with a name. -/
def readBase (name raw : String) : Except ConfigError Url :=
  match linkBase raw with
  | .error e => .error (.invalidLinkBase name raw e)
  | .ok url => .ok url

/-- Checks settings; the first problem is reported. -/
def build (s : Settings) : Except ConfigError Config := do
  s.checkKey
  s.checkLifetimes
  s.checkParams
  let verificationBase ← readBase "verification link base" s.verificationBase
  let resetBase ← readBase "reset link base" s.resetBase
  return { s with verificationBase, resetBase }

end Settings

namespace Config

/-- The issuer of tokens. -/
def tokens (c : Config) : TokenIssuer where
  algorithm := c.algorithm
  key := c.key
  name := c.issuer
  accessLifetime := c.accessLifetime
  refreshLifetime := if c.issueRefresh then some c.refreshLifetime else none

/-- The hasher of passwords. -/
def passwords (c : Config) : Hasher := ⟨c.hashVersion, c.hashParams⟩

/-- The base of the links in messages of a kind. -/
def linkBase (c : Config) : Email.Kind → Url
  | .verification => c.verificationBase
  | .reset => c.resetBase

/-- Writes a message of a kind. -/
def renderEmail (c : Config) (kind : Email.Kind) (token : String) (hours : Int) :
    Except Email.TemplateError Email.Template :=
  Email.render kind (c.linkBase kind) token hours

end Config

end Credentials
