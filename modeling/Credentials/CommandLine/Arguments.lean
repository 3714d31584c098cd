import Credentials.CommandLine.Grammar
import Credentials.Config
import Credentials.LogFormat

/-!
# Arguments of the program

The options that configure every command come first, then a command with options of its own. Some
options can also be given in the environment, where the command line takes precedence.
-/

namespace Credentials.CommandLine

open Credentials.Password Credentials.Token

/-- What a message is to say, and where it is to be sent if not printed. -/
structure EmailRequest where
  token : String
  hours : Int
  recipient : Option String
deriving DecidableEq, Repr

/-- What the program is to do. -/
inductive Command where
  | issue (claims : List Claim)
  | inspect (token : String)
  | hashPassword
  | verifyPassword (hash : String)
  | newId (count : Nat)
  | email (kind : Email.Kind) (request : EmailRequest)
deriving DecidableEq, Repr

/-- Whether a command reads a password from the input. -/
def Command.readsInput : Command → Bool
  | .hashPassword | .verifyPassword _ => true
  | _ => false

/-- Whether a command may need a clock that is not before 1970. -/
def Command.trustsClock : Command → Bool
  | .inspect _ => true
  | .newId count => count != 0
  | _ => false

/-- The arguments of the program. -/
structure Arguments where
  signingKeyFile : Option String
  algorithm : Algorithm
  issuer : String
  accessTokenTtl : UInt64
  refreshTokenTtl : UInt64
  noRefreshToken : Bool
  verificationLinkBase : String
  resetLinkBase : String
  hashVersion : Version
  hashParams : Argon2.Params
  logFormat : LogFormat
  command : Command
deriving DecidableEq, Repr

/-- The settings that arguments and a key amount to. -/
def Arguments.settings (a : Arguments) (key : List UInt8) : Settings where
  key := key
  algorithm := a.algorithm
  issuer := a.issuer
  accessLifetime := .ofSeconds a.accessTokenTtl
  issueRefresh := !a.noRefreshToken
  refreshLifetime := .ofSeconds a.refreshTokenTtl
  verificationBase := a.verificationLinkBase
  resetBase := a.resetLinkBase
  hashVersion := a.hashVersion
  hashParams := a.hashParams

/-- A value that has been read. -/
inductive Item where
  | text (value : String)
  | flag
  | algorithm (value : Algorithm)
  | version (value : Version)
  | format (value : LogFormat)
  | word (value : UInt64)
  | cost (value : UInt32)
  | hours (value : Int)
  | claim (value : Claim)

namespace Item

/-- Reads any text. -/
def readText (value : String) : Except UsageError Item := .ok (.text value)

/-- Reads a value that is malformed unless `parse` finds one. -/
def readBy {α : Type} (make : α → Item) (parse : List Char → Option α) (value : String) :
    Except UsageError Item :=
  match parse value.toList with
  | none => .error .malformedValue
  | some v => .ok (make v)

/-- Reads one of a few names. -/
def readName {α : Type} (make : α → Item) (find : String → Option α) (value : String) :
    Except UsageError Item :=
  match find value with
  | none => .error .invalidValue
  | some v => .ok (make v)

/-- Reads a number of 64 bits. -/
def readWord : String → Except UsageError Item :=
  readBy .word fun text => (Text.natural? (UInt64.size - 1) text).map .ofNat

/-- Reads a cost. A number of either sign is read first, so zero may have a minus sign. -/
def readCost : String → Except UsageError Item :=
  readBy .cost fun text => do
    let n ← Text.integer? text
    guard (0 ≤ n ∧ n.toNat < UInt32.size)
    return .ofNat n.toNat

/-- Reads the number of a layout of stored hashes. -/
def readVersion : String → Except UsageError Item :=
  readBy .version fun text => do Version.ofTag? (.ofNat (← Text.natural? 255 text))

/-- Reads a claim. -/
def readClaim (value : String) : Except UsageError Item :=
  match Claim.parse value with
  | .error _ => .error .malformedValue
  | .ok c => .ok (.claim c)

end Item

/-- Options that configure every command, and the commands. -/
def topLevel : Grammar Item where
  options := [
    { name := "signing-key-file", read := Item.readText },
    { name := "algorithm", read := Item.readName .algorithm Algorithm.ofOption? },
    { name := "issuer", read := Item.readText },
    { name := "access-token-ttl", read := Item.readWord },
    { name := "refresh-token-ttl", read := Item.readWord },
    { name := "no-refresh-token", takesValue := false, read := fun _ => .ok .flag },
    { name := "verification-link-base", read := Item.readText },
    { name := "reset-link-base", read := Item.readText },
    { name := "hash-version", read := Item.readVersion },
    { name := "hash-memory-kib", read := Item.readCost },
    { name := "hash-iterations", read := Item.readCost },
    { name := "hash-parallelism", read := Item.readCost },
    { name := "log-format", short := some 'l', read := Item.readName .format LogFormat.ofName? }]
  commands := ["issue", "inspect", "hash-password", "verify-password", "new-id",
    "verification-email", "reset-email", "help"]

/-- Options of the commands that write a message. -/
def emailOptions : List (Parameter Item) := [
  { name := "token", read := Item.readText },
  { name := "hours", allowsNegative := true, read := Item.readBy .hours Text.integer? },
  { name := "to", read := Item.readText }]

/-- Options and operands of a command. -/
def commandGrammar (command : String) : Grammar Item :=
  match command with
  | "issue" =>
    { options := [
        { name := "claim", short := some 'c', repeatable := true, read := Item.readClaim }] }
  | "inspect" => { options := [], operands := [{ name := "token", read := Item.readText }] }
  | "verify-password" =>
    { options := [], operands := [{ name := "hash", read := Item.readText }] }
  | "new-id" => { options := [{ name := "count", short := some 'n', read := Item.readWord }] }
  | "verification-email" => { options := emailOptions }
  | "reset-email" => { options := emailOptions }
  | _ => { options := [] }

/-- Items by the names of their parameters, the last one first. -/
abbrev Items := List (String × Item)

namespace Items

/-- The item of a parameter that is there at most once. -/
def get? (items : Items) (name : String) : Option Item := items.lookup name

/-- The text of a parameter. -/
def text? (items : Items) (name : String) : Option String :=
  match items.get? name with
  | some (.text value) => some value
  | _ => none

/-- A number of a parameter. -/
def word? (items : Items) (name : String) : Option UInt64 :=
  match items.get? name with
  | some (.word value) => some value
  | _ => none

/-- A cost of a parameter. -/
def cost? (items : Items) (name : String) : Option UInt32 :=
  match items.get? name with
  | some (.cost value) => some value
  | _ => none

/-- The text of a parameter that has to be there. -/
def required (items : Items) (name : String) : Except UsageError String :=
  match items.text? name with
  | none => .error .missingRequiredArgument
  | some value => .ok value

/-- All claims in the order in which they were given. -/
def claims (items : Items) : List Claim :=
  items.reverse.filterMap fun (_, item) =>
    match item with
    | .claim c => some c
    | _ => none

/-- What a message is to say. -/
def emailRequest (items : Items) : Except UsageError EmailRequest := do
  let token ← items.required "token"
  let hours := match items.get? "hours" with
    | some (.hours value) => value
    | _ => 24
  return ⟨token, hours, items.text? "to"⟩

/-- The command that the items of its parameters amount to. -/
def command (items : Items) (name : String) : Except UsageError Command :=
  match name with
  | "issue" => .ok (.issue items.claims)
  | "inspect" => (items.required "token").map .inspect
  | "hash-password" => .ok .hashPassword
  | "verify-password" => (items.required "hash").map .verifyPassword
  | "new-id" => .ok (.newId ((items.word? "count").map UInt64.toNat |>.getD 1))
  | "verification-email" => items.emailRequest.map (.email .verification)
  | "reset-email" => items.emailRequest.map (.email .reset)
  | _ => .error .unknownCommand

end Items

/-- Variables of the environment by name. -/
abbrev Environment := List (String × String)

/-- The text of an option: from the command line, from a variable, or the usual one. -/
def textSetting (items : Items) (env : Environment) (name variableName usual : String) : String :=
  ((items.text? name).or (env.lookup variableName)).getD usual

/-- Variables that can stand for options. -/
def issuerVariable : String := "WARDEN_ISSUER"

/-- The variable for the base of links in messages that ask to confirm an address. -/
def verificationBaseVariable : String := "WARDEN_VERIFICATION_LINK_BASE"

/-- The variable for the base of links in messages that offer to choose a new password. -/
def resetBaseVariable : String := "WARDEN_RESET_LINK_BASE"

/-- All variables that can stand for options. -/
def optionVariables : List String := [issuerVariable, verificationBaseVariable, resetBaseVariable]

/-- The arguments that the items of the first level and a command amount to. -/
def Arguments.ofItems (items : Items) (env : Environment) (command : Command) : Arguments :=
  let usual : Settings := { key := [] }
  { signingKeyFile := items.text? "signing-key-file"
    algorithm := match items.get? "algorithm" with
      | some (.algorithm a) => a
      | _ => usual.algorithm
    issuer := textSetting items env "issuer" issuerVariable usual.issuer
    accessTokenTtl := (items.word? "access-token-ttl").getD usual.accessLifetime.seconds
    refreshTokenTtl := (items.word? "refresh-token-ttl").getD usual.refreshLifetime.seconds
    noRefreshToken := (items.get? "no-refresh-token").isSome
    verificationLinkBase :=
      textSetting items env "verification-link-base" verificationBaseVariable usual.verificationBase
    resetLinkBase := textSetting items env "reset-link-base" resetBaseVariable usual.resetBase
    hashVersion := match items.get? "hash-version" with
      | some (.version v) => v
      | _ => usual.hashVersion
    hashParams := {
      memoryKib := (items.cost? "hash-memory-kib").getD usual.hashParams.memoryKib
      iterations := (items.cost? "hash-iterations").getD usual.hashParams.iterations
      parallelism := (items.cost? "hash-parallelism").getD usual.hashParams.parallelism }
    logFormat := match items.get? "log-format" with
      | some (.format f) => f
      | _ => .pretty
    command }

/-- Reads a command and its arguments. -/
def parseCommand (name : String) (args : List String) : Except UsageError Command := do
  let (s, _) ← (commandGrammar name).scan args
  Items.command (← s.resolve).found name

/-- A request for help may name one command, or help itself. -/
def helpError (args : List String) : UsageError :=
  match args with
  | [] => .helpRequested
  | [name] => if topLevel.commands.contains name then .helpRequested else .unknownCommand
  | _ => .unknownCommand

/-- Reads the arguments of the program. -/
def Arguments.parse (env : Environment) (args : List String) : Except UsageError Arguments := do
  let (s, rest) ← topLevel.scan args
  match rest with
  | some ("help", args) => .error (helpError args)
  | some (name, args) =>
    let command ← parseCommand name args
    let s ← s.resolve
    return .ofItems s.found env command
  | none =>
    let s ← s.resolve
    if s.found.isEmpty && !env.any (optionVariables.contains ·.1) then .error .nothingGiven
    else .error .missingCommand

end Credentials.CommandLine
