import Credentials.Config

/-!
# Logging in

A session is issued for a password that is accepted. A stored hash that is not as new hashes are is
replaced on the way.
-/

namespace Credentials

open Credentials.Argon2 Credentials.Password

/-- The answer to a login. -/
inductive LoginOutcome where
  /-- A session, and the bytes to store in place of the old hash if they should be replaced. -/
  | issued (token : IssuedToken) (rehashed : Option (List UInt8))
  | rejected (outcome : Outcome)
deriving DecidableEq, Repr

/-- Why a login comes to no answer. -/
inductive LoginError where
  | token (cause : TokenError)
  | password (cause : HashError)
deriving DecidableEq, Repr

/-- The wording of the problem. -/
def LoginError.message : LoginError → String
  | .token cause => cause.message
  | .password cause => cause.message

/-- The random bytes that a login may use up. -/
structure LoginRandom where
  salt : Salt
  refresh : RefreshBytes

/-- What the operator is told when a password is not accepted. -/
def rejectionEvent (outcome : Outcome) : LogEvent :=
  match outcome with
  | .fail => ⟨.info, .program, "Password rejected", [("outcome", .text outcome.text)]⟩
  | _ =>
    ⟨.warn, .program, "Stored password hash is malformed", [("outcome", .text outcome.text)]⟩

/-- What the operator is told when a hash is replaced. -/
def rehashEvent : LogEvent :=
  ⟨.info, .program, "Rehashing password with current parameters", []⟩

namespace Config

/-- The hash to store in place of the old one, if it should be replaced. -/
def rehashWith (derive : KeyDerivation) (c : Config) (password : String) (salt : Salt)
    (outcome : Outcome) : Except HashError (Option (List UInt8)) :=
  if outcome.needsRehash then
    (c.passwords.hashWith derive password salt).map fun h => some h.encode
  else .ok none

/-- Checks a password and issues a session, given a function to derive with. -/
def loginWith (derive : KeyDerivation) (c : Config) (password : String) (stored : List UInt8)
    (claims : List Claim) (clock : Clock) (random : LoginRandom) :
    Except LoginError LoginOutcome × List LogEvent :=
  let finding := c.passwords.inspectWith derive password stored
  let outcome := finding.outcome
  if !outcome.isSuccess then
    (.ok (.rejected outcome), finding.events ++ [rejectionEvent outcome])
  else
    let events := finding.events ++ if outcome.needsRehash then [rehashEvent] else []
    match c.rehashWith derive password random.salt outcome with
    | .error e => (.error (.password e), events)
    | .ok rehashed =>
      match c.tokens.issue claims clock random.refresh with
      | .error e => (.error (.token e), events)
      | .ok token => (.ok (.issued token rehashed), events)

/-- Checks a password with Argon2id and issues a session. -/
def login (c : Config) (password : String) (stored : List UInt8) (claims : List Claim)
    (clock : Clock) (random : LoginRandom) : Except LoginError LoginOutcome × List LogEvent :=
  c.loginWith argon2id password stored claims clock random

end Config

end Credentials
