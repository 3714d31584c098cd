import Credentials.Json.Object
import Credentials.Json.Printer

/-!
# Claims

A claim is a named fact about the subject of a token. Names may repeat. In the payload of a token, a
name with several values holds an array of them in the order in which they were given.
-/

namespace Credentials

open Credentials.Json

/-- A named fact about the subject of a token. -/
structure Claim where
  name : String
  value : String
deriving DecidableEq, Repr, Inhabited

namespace Claim

/-- The policy that asks for a verified email address. -/
def emailPolicy : String := "Email Verification Policy"

/-- The claim that the policy looks at. -/
def emailVerified : Claim := ⟨"EmailVerification", "True"⟩

/-- A text that is no claim. -/
structure Malformed where
  text : String
deriving DecidableEq, Repr

/-- The wording of the problem. -/
def Malformed.message (e : Malformed) : String :=
  "Claim must be in the form name=value: " ++ e.text

/-- Splits a text at its first equals sign. -/
def splitEquals? : List Char → Option (List Char × List Char)
  | [] => none
  | c :: rest =>
    if c = '=' then some ([], rest)
    else (splitEquals? rest).map fun (name, value) => (c :: name, value)

/-- Reads a claim from its name, an equals sign and its value, which may hold further ones. -/
def parse (text : String) : Except Malformed Claim :=
  match splitEquals? text.toList with
  | some (c :: name, value) => .ok ⟨.ofList (c :: name), .ofList value⟩
  | _ => .error ⟨text⟩

end Claim

namespace Json.Object

/-- What a member holds after one more value has been given to it. -/
def appendValue (value : String) : Option Value → Value
  | none => .string value
  | some (.array items) => .array (items ++ [.string value])
  | some other => .array [other, .string value]

/-- Adds one claim. -/
def addClaim (o : Object) (c : Claim) : Object :=
  o.insert c.name (appendValue c.value (o.get? c.name))

/-- Adds claims one after another. -/
def addClaims (o : Object) (claims : List Claim) : Object := claims.foldl addClaim o

end Json.Object

/-- The text of a value that is neither null nor composed of others. -/
def Json.Value.scalarText? : Value → Option String
  | .string s => some s
  | .bool b => some (.ofList (boolText b))
  | .number n => some (.ofList n.text)
  | _ => none

namespace Claim

/-- The claims of one member: each scalar of an array, or the scalar itself. -/
def ofMember (name : String) : Value → List Claim
  | .array items => (items.filterMap Value.scalarText?).map (Claim.mk name)
  | v => v.scalarText?.toList.map (Claim.mk name)

/-- The claims of an object, in the order of their names. -/
def ofObject (o : Object) : List Claim := o.members.flatMap fun (name, v) => ofMember name v

end Claim

end Credentials
