import Credentials.CommandLine.Arguments
import Credentials.Interchange
import Credentials.Json.Printer
import Credentials.LogFilter
import Credentials.Login
import Credentials.SigningKey

/-!
# The program

What a run of the program does, as a function of all that it can see: its arguments, the
environment, files, its input, the clock and random bytes. A run has an exit code, an output and
events for the log.
-/

namespace Credentials

open Credentials.Argon2 Credentials.CommandLine Credentials.Json Credentials.Password

/-- Bytes in a draw of random bytes. -/
abbrev drawLength : Nat := 64

/-- Random bytes for one use. -/
abbrev Draw := Vector UInt8 drawLength

namespace Draw

/-- A salt. -/
def salt (d : Draw) : Salt := Vector.ofFn fun i => d[i.val]

/-- The bytes of a refresh token. -/
def refreshBytes (d : Draw) : RefreshBytes := Vector.ofFn fun i => d[i.val]

/-- Two random numbers for an id. -/
def idNumbers (d : Draw) : Nat × Nat :=
  ((Bytes.ofLE64 (d.toList.take 8)).toNat, (Bytes.ofLE64 ((d.toList.drop 8).take 8)).toNat)

/-- The draws that some bytes determine: every draw is the digest of its number and of the bytes. -/
def ofSeed (seed : List UInt8) (n : Nat) : Draw :=
  let digest := Digest.sha512 (Bytes.be64 (.ofNat n) ++ seed)
  Vector.ofFn fun i => digest.getD i.val 0

end Draw

/-- All that a run can see beside its arguments. -/
structure Surroundings where
  environmentBytes : List (String × List UInt8)
  fileAt : String → Except FileProblem (List UInt8)
  input : List UInt8
  clock : Clock
  /-- Random bytes; every number is drawn once. -/
  draw : Nat → Draw

namespace Surroundings

/-- The variables that hold text. -/
def environment (s : Surroundings) : Environment :=
  s.environmentBytes.filterMap fun (name, bytes) =>
    (Bytes.ofUtf8? bytes).map fun text => (name, String.ofList text)

/-- The variable that asks for a log filter. -/
def filterVariable : String := "RUST_LOG"

/-- The text that asks for a log filter. -/
def filterText (s : Surroundings) : Option String := s.environment.lookup filterVariable

/--
Which events are shown, given how a text is read as a filter. Where there is no text, or none that
can be read, these are all from the level of information on.
-/
def logFilter (s : Surroundings) (read : String → Option LogFilter) : LogFilter :=
  (s.filterText.bind read).getD (LogFilter.upTo .info)

end Surroundings

/-- Why a command fails. -/
inductive CommandError where
  | token (cause : TokenError)
  | password (cause : HashError)
  | template (cause : Email.TemplateError)
  | malformedHash
  | unreadablePassword
  | noPassword
deriving DecidableEq, Repr

/-- The wording of a failure. -/
def CommandError.message : CommandError → String
  | .token cause => cause.message
  | .password cause => cause.message
  | .template cause => cause.message
  | .malformedHash => "Stored hash is not valid base64"
  | .unreadablePassword => "Failed to read password from stdin"
  | .noPassword => "No password provided on stdin"

/-- What a run leaves behind. -/
structure Report where
  exitCode : UInt32
  output : String
  events : List LogEvent
deriving DecidableEq, Repr

/-- The events that are shown. -/
def Report.log (r : Report) (filter : LogFilter) : List LogEvent := r.events.filter filter

/-- Exit codes. -/
def exitSuccess : UInt32 := 0

/-- The exit code of a run that fails. -/
def exitFailure : UInt32 := 1

/-- The exit code for wrong arguments, and for a password that is not accepted. -/
def exitRefused : UInt32 := 2

/-- The exit code that goes with a run that is aborted. -/
def exitAborted : UInt32 := 134

namespace Program

/-- The text without one line feed at its end. -/
def dropLineFeed? (text : List Char) : Option (List Char) :=
  if text.getLast? = some '\n' then some text.dropLast else none

/-- The text without one line break at its end. -/
def dropLineBreak (text : List Char) : List Char :=
  match dropLineFeed? text with
  | none => text
  | some line => if line.getLast? = some '\r' then line.dropLast else line

/-- The password that the input holds: all of it but one line break at its end. -/
def readPassword (input : List UInt8) : Except CommandError String :=
  match Bytes.ofUtf8? input with
  | none => .error .unreadablePassword
  | some text =>
    if (dropLineBreak text).isEmpty then .error .noPassword
    else .ok (.ofList (dropLineBreak text))

/-- A line of output. -/
def line (text : List Char) : String := .ofList (text ++ ['\n'])

/-- A value on lines of its own. -/
def prettyLines (v : Value) : String := line (v.pretty 0)

/-- What is told about an accepted token. -/
def inspection (t : AccessToken) : Value :=
  .object [("claims", .array (t.claims.map Claim.toJson)),
    ("email_verified", .bool t.isEmailVerified), ("expires_at", Value.ofWord t.expiresAt),
    ("issued_at", Value.ofWord t.issuedAt), ("issuer", .string t.issuer)]

/-- The event of an issued token. -/
def issuedEvent (claims : List Claim) : LogEvent :=
  ⟨.info, .program, "Issued access token", [("claims", .number claims.length)]⟩

/-- Issues tokens. -/
def issue (c : Config) (s : Surroundings) (claims : List Claim) : Except CommandError Report :=
  match c.tokens.issue claims s.clock (s.draw 0).refreshBytes with
  | .error e => .error (.token e)
  | .ok issued => .ok ⟨exitSuccess, prettyLines issued.toJson, [issuedEvent claims]⟩

/-- What a run leaves behind in which the clock is needed and is before 1970. -/
def aborted : Report := ⟨exitAborted, "", []⟩

/-- Tells what a token says. -/
def inspect (c : Config) (s : Surroundings) (token : String) : Except CommandError Report :=
  match s.clock.unixSeconds? with
  | none =>
    match c.tokens.untimedError? token.toList with
    | some e => .error (.token (.decoding e))
    | none => .ok aborted
  | some now =>
    match c.tokens.validate now token with
    | .error e => .error (.token e)
    | .ok accepted => .ok ⟨exitSuccess, prettyLines (inspection accepted), []⟩

/-- Hashes the password of the input. -/
def hashPassword (c : Config) (s : Surroundings) : Except CommandError Report := do
  let password ← readPassword s.input
  match c.passwords.hash password (s.draw 0).salt with
  | .error e => .error (.password e)
  | .ok hash =>
    return ⟨exitSuccess, line (Bytes.Base64.standard.encodePadded hash.encode), []⟩

/-- The bytes of a stored hash that is given as text. -/
def readStored (text : String) : Except CommandError (List UInt8) :=
  match Bytes.Base64.standard.decodePadded? (Text.trim text.toList) with
  | none => .error .malformedHash
  | some stored => .ok stored

/-- Checks the password of the input. -/
def verifyPassword (c : Config) (s : Surroundings) (hash : String) :
    Except CommandError Report := do
  let stored ← readStored hash
  let password ← readPassword s.input
  let finding := c.passwords.inspect password stored
  let exitCode := if finding.outcome.isSuccess then exitSuccess else exitRefused
  return ⟨exitCode, line finding.outcome.text.toList, finding.events⟩

/-- Makes ids. -/
def newIds (s : Surroundings) (count : Nat) : Report :=
  if count ≠ 0 ∧ s.clock.seconds < 0 then aborted else
  let numbers := (List.range count).map fun n => (s.draw n).idNumbers
  let ids := IdSource.initial.take s.clock.unixMillis numbers
  ⟨exitSuccess, .ofList (ids.flatMap fun id => id.text ++ ['\n']), []⟩

/-- Writes a message, and prints it or hands it over. -/
def email (c : Config) (kind : Email.Kind) (request : EmailRequest) :
    Except CommandError Report :=
  match c.renderEmail kind request.token request.hours with
  | .error e => .error (.template e)
  | .ok template =>
    match request.recipient with
    | some recipient => .ok ⟨exitSuccess, "", [template.sentEvent recipient]⟩
    | none => .ok ⟨exitSuccess, prettyLines template.toJson, []⟩

/-- Carries out a command. -/
def runCommand (c : Config) (s : Surroundings) : Command → Except CommandError Report
  | .issue claims => issue c s claims
  | .inspect token => inspect c s token
  | .hashPassword => hashPassword c s
  | .verifyPassword hash => verifyPassword c s hash
  | .newId count => .ok (newIds s count)
  | .email kind request => email c kind request

/-- A failure with what the operator is told. -/
def failure (message : String) (error : Option String) : Report :=
  let fields := error.toList.map fun text => ("error", LogField.text text)
  ⟨exitFailure, "", [⟨.error, .program, message, fields⟩]⟩

/-- What the operator is told when there is no key. -/
def noKeyMessage : String :=
  "Signing key is required. Set WARDEN_SIGNING_KEY environment variable (recommended) " ++
    "or use --signing-key-file"

/-- The run once the key is there. -/
def runWithKey (args : Arguments) (s : Surroundings) (key : List UInt8) : Report :=
  match (args.settings key).build with
  | .error e => failure "Invalid configuration" (some e.message)
  | .ok config =>
    match runCommand config s args.command with
    | .error e => failure "Command failed" (some e.message)
    | .ok report => report

/-- The report with events that came before. -/
def afterEvents (events : List LogEvent) (r : Report) : Report :=
  { r with events := events ++ r.events }

/-- Looks for the key among what a run can see. -/
def loadKey (args : Arguments) (s : Surroundings) : SigningKey.Loaded :=
  SigningKey.load ⟨s.environmentBytes.lookup SigningKey.variableName, args.signingKeyFile, s.fileAt⟩

/-- Runs the program with arguments that have been read. -/
def run (args : Arguments) (s : Surroundings) : Report :=
  let loaded := loadKey args s
  afterEvents loaded.events <|
    match loaded.key with
    | .error .missingSigningKey => failure noKeyMessage none
    | .error e => failure "Failed to load signing key" (some e.message)
    | .ok key => runWithKey args s key

end Program

end Credentials
