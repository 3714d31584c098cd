import Credentials.EntityId
import Credentials.Json.Record
import Credentials.Token.Issuer

/-!
# Values as JSON

How claims, tokens and ids are exchanged with other programs. In the record of issued tokens, the
refresh token and its expiry are two members beside the others; if either is missing or not what it
should be, there is no refresh token.
-/

namespace Credentials

open Credentials.Json Credentials.Token

namespace Claim

/-- A claim as JSON. -/
def toJson (c : Claim) : Value := .object [("name", .string c.name), ("value", .string c.value)]

/-- Reads a claim. -/
def ofJson? (v : Syntax) : Option Claim := do
  let [name, value] ← fields? ["name", "value"] v | none
  return ⟨← name.string?, ← value.string?⟩

end Claim

namespace RefreshToken

/-- The names of the members. -/
def memberNames : List String := ["refresh_token", "refresh_token_expires_at"]

/-- The members of a refresh token. -/
def members (t : RefreshToken) : List (String × Value) :=
  [("refresh_token", .string t.text), ("refresh_token_expires_at", Value.ofWord t.expiresAt)]

/-- A refresh token as JSON. -/
def toJson (t : RefreshToken) : Value := .object t.members

/-- Reads a refresh token. -/
def ofJson? (v : Syntax) : Option RefreshToken := do
  let [text, expiresAt] ← fields? memberNames v | none
  return ⟨← text.string?, ← expiresAt.word?⟩

/-- The refresh token among the members of a larger record. -/
def ofMembers? (members : List (String × Value)) : Option RefreshToken := do
  let text ← (only? "refresh_token" members).bind Value.string?
  return ⟨text, ← (only? "refresh_token_expires_at" members).bind Value.word?⟩

end RefreshToken

namespace IssuedToken

/-- The tokens of a session as JSON. -/
def toJson (t : IssuedToken) : Value :=
  .object <| ("access_token", .string t.accessToken) ::
    ("access_token_expires_at", Value.ofWord t.expiresAt) ::
    (t.refresh.map RefreshToken.members).getD []

/-- Reads the tokens of a session. -/
def ofJson? : Value → Option IssuedToken
  | .object members => do
    let accessToken ← (only? "access_token" members).bind Value.string?
    let expiresAt ← (only? "access_token_expires_at" members).bind Value.word?
    return ⟨accessToken, expiresAt, RefreshToken.ofMembers? members⟩
  | _ => none

end IssuedToken

namespace Token

/-- The type of access tokens as JSON. -/
def accessTypeJson : Value := .string accessType

/-- Whether a tree spells the type of access tokens: its name, or an object with null under it. -/
def spellsAccessType : Syntax → Bool
  | .string s => s.text? == some accessType
  | .object [(name, .null)] => name.text? == some accessType
  | _ => false

end Token

namespace EntityId

/-- An id as JSON. -/
def toJson (id : EntityId) : Value := .string (.ofList id.text)

/-- Reads an id. -/
def ofJson? (v : Syntax) : Option EntityId := do parse? (← v.string?).toList

end EntityId

end Credentials
